import ScheduledJobs.Document.Json.Parser
import ScheduledJobs.Document.Json.Printer
import ScheduledJobs.Proofs.Document.Plain
import ScheduledJobs.Proofs.Text.Numerals
import ScheduledJobs.Proofs.Text.Octets

/-! # JSON numbers are read back -/

namespace ScheduledJobs.Document.Json

open Text

/-- Whether a number ends in front of these octets. -/
def EndsNumber (rest : List UInt8) : Prop :=
  ∀ octet ∈ rest.head?, Octet.isDigit octet = false ∧
    octet ≠ Octet.point ∧ octet ≠ Octet.smallE ∧ octet ≠ Octet.capitalE

theorem endsNumber_nil : EndsNumber [] := nofun

theorem endsNumber_cons {octet : UInt8} (rest : List UInt8)
    (separates : octet = Octet.comma ∨ octet = Octet.closeBracket ∨
      octet = Octet.closeBrace) : EndsNumber (octet :: rest) := by
  intro head isHead
  obtain rfl : octet = head := by simpa using isHead
  rcases separates with rfl | rfl | rfl <;> decide

theorem toNat_lt_of_isDigit {character : Char}
    (digit : character.isDigit = true) : character.toNat < 0x80 := by
  simp only [Char.isDigit, Bool.and_eq_true, decide_eq_true_eq] at digit
  have bound := UInt32.le_iff_toNat_le.mp digit.2
  exact Nat.lt_of_le_of_lt bound (by decide)

theorem character_ofNat {character : Char} (ascii : character.toNat < 0x80) :
    Octet.character (UInt8.ofNat character.toNat) = character := by
  rw [Octet.character, UInt8.toNat_ofNat', Nat.mod_eq_of_lt (by omega),
    Char.ofNat_toNat]

theorem digits_octets (numeral : List Char)
    (allDigits : ∀ character ∈ numeral, character.isDigit = true)
    {rest : List UInt8} (ends : EndsNumber rest) :
    digits (Utf8.octets numeral ++ rest) = (numeral, rest) := by
  induction numeral with
  | nil =>
      cases rest with
      | nil => rfl
      | cons octet rest =>
          have notDigit := (ends octet rfl).1
          simp [digits, notDigit]
  | cons character numeral ih =>
      have isDigit := allDigits character (by simp)
      have ascii := toNat_lt_of_isDigit isDigit
      have others := ih fun other member =>
        allDigits other (List.mem_cons_of_mem _ member)
      simp only [digits, Prod.mk.injEq] at others ⊢
      have accepted :
          Octet.isDigit (UInt8.ofNat character.toNat) = true := by
        rw [Octet.isDigit, character_ofNat ascii, isDigit]
      rw [Utf8.octets_cons, Utf8.utf8EncodeChar_of_ascii ascii]
      simp only [List.cons_append, List.nil_append,
        List.takeWhile_cons_of_pos accepted,
        List.dropWhile_cons_of_pos accepted, List.map_cons, others,
        character_ofNat ascii, and_self]

theorem wholeDigits?_natural (number : Nat) {rest : List UInt8}
    (ends : EndsNumber rest) :
    wholeDigits? (Utf8.octets (Decimal.natural number) ++ rest) =
      some (Decimal.natural number, rest) := by
  have found := digits_octets (Decimal.natural number)
    (fun _ member => Decimal.isDigit_of_mem_natural member) ends
  rw [wholeDigits?, found]
  rcases Nat.eq_zero_or_pos number with rfl | positive
  · rfl
  · have nonzero := Decimal.head_natural_ne_zero positive
    split
    · next equal =>
        exact absurd (Prod.mk.inj equal).1 (Decimal.natural_ne_nil number)
    · next equal => exact absurd (Prod.mk.inj equal).1 (nonzero _)
    · rfl

theorem pointDigits?_of_endsNumber {rest : List UInt8}
    (ends : EndsNumber rest) : pointDigits? rest = some ([], rest) := by
  cases rest with
  | nil => rfl
  | cons octet rest =>
      exact pointDigits?.eq_2 (octet :: rest) fun after equal =>
        (ends octet rfl).2.1 (List.cons.inj equal).1

theorem exponent?_of_endsNumber {rest : List UInt8}
    (ends : EndsNumber rest) : exponent? rest = some (none, rest) := by
  cases rest with
  | nil => rfl
  | cons octet rest =>
      obtain ⟨-, -, notSmall, notCapital⟩ := ends octet rfl
      exact exponent?.eq_3 (octet :: rest)
        (fun after equal => notSmall (List.cons.inj equal).1)
        (fun after equal => notCapital (List.cons.inj equal).1)

theorem unsigned?_natural (negative : Bool) (number : Nat)
    {rest : List UInt8} (ends : EndsNumber rest) :
    unsigned? negative (Utf8.octets (Decimal.natural number) ++ rest) =
      some (whole negative (Decimal.natural number), rest) := by
  simp [unsigned?, wholeDigits?_natural number ends,
    pointDigits?_of_endsNumber ends, exponent?_of_endsNumber ends]

theorem whole_natural {number : Nat} (word : number < UInt64.size) :
    whole false (Decimal.natural number) = .integer number := by
  simp [whole, word]

theorem whole_natural_negative {number : Nat} (positive : 0 < number)
    (word : number ≤ UInt64.size / 2) :
    whole true (Decimal.natural number) = .integer (-number) := by
  have nonzero : ¬(number = 0 ∨ UInt64.size / 2 < number) := by omega
  simp [whole, nonzero]

/-- A written number begins with an octet that begins nothing else. -/
theorem exists_octets_natural (number : Nat) :
    ∃ octet others,
      Utf8.octets (Decimal.natural number) = octet :: others ∧
        Octet.isDigit octet = true := by
  cases written : Decimal.natural number with
  | nil => exact absurd written (Decimal.natural_ne_nil number)
  | cons character characters =>
      have isDigit : character.isDigit = true :=
        Decimal.isDigit_of_mem_natural (written ▸ List.mem_cons_self)
      have ascii := toNat_lt_of_isDigit isDigit
      refine ⟨UInt8.ofNat character.toNat, Utf8.octets characters, ?_, ?_⟩
      · rw [Utf8.octets_cons, Utf8.utf8EncodeChar_of_ascii ascii]
        rfl
      · rw [Octet.isDigit, character_ofNat ascii, isDigit]

theorem ne_of_isDigit {octet other : UInt8}
    (digit : Octet.isDigit octet = true)
    (notDigit : Octet.isDigit other = false) : octet ≠ other := by
  rintro rfl
  simp [digit] at notDigit

theorem number?_integer {number : Int} (word : Value.IsWord number)
    {rest : List UInt8} (ends : EndsNumber rest) :
    number? (Utf8.octets (Decimal.integer number) ++ rest) =
      some (.integer number, rest) := by
  obtain ⟨least, greatest⟩ := word
  cases number with
  | ofNat number =>
      have unsigned := unsigned?_natural false number ends
      rw [whole_natural (Int.ofNat_lt.mp greatest)] at unsigned
      obtain ⟨octet, others, written, digit⟩ := exists_octets_natural number
      refine (number?.eq_2 _ ?_).trans unsigned
      intro after equal
      rw [Decimal.integer, written] at equal
      exact ne_of_isDigit digit (by decide) (List.cons.inj equal).1
  | negSucc number =>
      have unsigned := unsigned?_natural true (number + 1) ends
      rw [whole_natural_negative (by omega) (by omega)] at unsigned
      exact unsigned

end ScheduledJobs.Document.Json
