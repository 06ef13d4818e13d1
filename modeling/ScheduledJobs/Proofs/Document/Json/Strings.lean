import ScheduledJobs.Document.Json.Parser
import ScheduledJobs.Document.Json.Printer
import ScheduledJobs.Proofs.Text.Octets

/-!
# JSON strings are read back

Every character is written as an escape whose pieces join to its octets, and
the closing quote is the first octet that is read as one.
-/

namespace ScheduledJobs.Document.Json

open Text

/-- Whether the octet stands for itself inside a string. -/
def Octet.IsOrdinary (octet : UInt8) : Prop :=
  0x20 ≤ octet ∧ octet ≠ Octet.quote ∧ octet ≠ Octet.backslash

theorem pieces?_ordinary {octet : UInt8} (ordinary : Octet.IsOrdinary octet)
    (rest : List UInt8) :
    pieces? (octet :: rest) =
      (pieces? rest).map fun read => (.plain octet :: read.1, read.2) := by
  obtain ⟨large, notQuote, notBackslash⟩ := ordinary
  have notSmall : ¬octet < 0x20 := UInt8.not_lt.mpr large
  rw [pieces?]
  · simp only [notSmall, if_false]
    cases pieces? rest <;> rfl
  · exact notQuote
  · intro _ _ _ _ _ equal
    exact absurd equal notBackslash
  · intro _ _ equal
    exact absurd equal notBackslash

theorem pieces?_ordinary_append {octets : List UInt8}
    (ordinary : ∀ octet ∈ octets, Octet.IsOrdinary octet)
    (rest : List UInt8) :
    pieces? (octets ++ rest) =
      (pieces? rest).map fun read =>
        (octets.map Piece.plain ++ read.1, read.2) := by
  induction octets with
  | nil => simp
  | cons octet octets ih =>
      rw [List.cons_append, pieces?_ordinary (ordinary octet (by simp)),
        ih fun other member => ordinary other (List.mem_cons_of_mem _ member)]
      simp [Function.comp_def]

theorem joined?_plain (octets : List UInt8) (others : List Piece) :
    joined? (octets.map Piece.plain ++ others) =
      (joined? others).map (octets ++ ·) := by
  induction octets with
  | nil => simp
  | cons octet octets ih =>
      simp [joined?, ih, Function.comp_def]

theorem isOrdinary_of_mem_utf8EncodeChar {character : Char}
    (printable : 0x20 ≤ character.toNat) (notQuote : character ≠ '"')
    (notBackslash : character ≠ '\\') {octet : UInt8}
    (member : octet ∈ String.utf8EncodeChar character) :
    Octet.IsOrdinary octet := by
  by_cases ascii : character.toNat < 0x80
  · rw [Utf8.utf8EncodeChar_of_ascii ascii, List.mem_singleton] at member
    subst member
    have code : (UInt8.ofNat character.toNat).toNat = character.toNat := by
      rw [UInt8.toNat_ofNat', Nat.mod_eq_of_lt (by omega)]
    refine ⟨?_, ?_, ?_⟩
    · rw [UInt8.le_iff_toNat_le, code]
      exact printable
    · intro equal
      exact notQuote (Char.toNat_inj.mp (code ▸ congrArg UInt8.toNat equal))
    · intro equal
      exact notBackslash
        (Char.toNat_inj.mp (code ▸ congrArg UInt8.toNat equal))
  · have large := Utf8.le_of_mem_utf8EncodeChar (Nat.not_lt.mp ascii) member
    refine ⟨UInt8.le_trans (by decide) large, ?_, ?_⟩
    · rintro rfl
      exact absurd large (by decide)
    · rintro rfl
      exact absurd large (by decide)

/-- The number that the four digits of an escape denote. -/
def escapedUnit? (digits : List UInt8) : Option Nat :=
  match digits with
  | [first, second, third, fourth] => fourDigits? first second third fourth
  | _ => none

theorem escapedUnit?_padded : ∀ number < 0x20,
    escapedUnit? (Utf8.octets (Hexadecimal.padded 4 number)) =
      some number := by
  decide +kernel

theorem pieces?_short {letter octet : UInt8}
    (short : shortEscape? letter = some octet) (rest : List UInt8) :
    pieces? (Octet.backslash :: letter :: rest) =
      (pieces? rest).map fun read => (.plain octet :: read.1, read.2) := by
  refine (pieces?.eq_4 letter rest ?_).trans ?_
  · intro _ _ _ _ _ isUnit _
    rw [isUnit] at short
    exact absurd short (show none ≠ some octet from nofun)
  · simp only [short, Option.bind_eq_bind, Option.bind_some]
    cases pieces? rest <;> rfl

theorem pieces?_unit {digits : List UInt8} {number : Nat}
    (denoted : escapedUnit? digits = some number) (rest : List UInt8) :
    pieces? (Octet.backslash :: Octet.smallU :: (digits ++ rest)) =
      (pieces? rest).map fun read => (.unit number :: read.1, read.2) := by
  match digits, denoted with
  | [first, second, third, fourth], denoted =>
      rw [escapedUnit?] at denoted
      refine (pieces?.eq_3 first second third fourth rest).trans ?_
      simp only [denoted, Option.bind_eq_bind, Option.bind_some]
      cases pieces? rest <;> rfl

theorem joined?_unit {character : Char} (control : character.toNat < 0x20)
    (others : List Piece) :
    joined? (.unit character.toNat :: others) =
      (joined? others).map (String.utf8EncodeChar character ++ ·) := by
  have notHigh : isHighSurrogate character.toNat = false := by
    simp only [isHighSurrogate, Bool.and_eq_false_iff, decide_eq_false_iff_not]
    omega
  have notLow : isLowSurrogate character.toNat = false := by
    simp only [isLowSurrogate, Bool.and_eq_false_iff, decide_eq_false_iff_not]
    omega
  have own : octetsOf character = String.utf8EncodeChar character := by
    rw [octetsOf, String.singleton_eq_ofList, Utf8.encode_ofList]
    simp
  conv => lhs; unfold joined?
  simp only [notHigh, notLow, Bool.false_eq_true, if_false, Char.ofNat_toNat,
    own]

/-- The pieces as which a written character is read. -/
structure EscapesTo (character : Char) (pieces : List Piece) : Prop where
  read : ∀ rest, pieces? (Utf8.octets (escape character) ++ rest) =
    (pieces? rest).map fun read => (pieces ++ read.1, read.2)
  joins : ∀ others, joined? (pieces ++ others) =
    (joined? others).map (String.utf8EncodeChar character ++ ·)

theorem escapesTo_short {character : Char} {letter octet : UInt8}
    (written : Utf8.octets (escape character) = [Octet.backslash, letter])
    (short : shortEscape? letter = some octet)
    (own : String.utf8EncodeChar character = [octet]) :
    EscapesTo character [.plain octet] where
  read rest := by
    rw [written]
    exact pieces?_short short rest
  joins others := by
    rw [own]
    exact joined?_plain [octet] others

theorem exists_escapesTo (character : Char) :
    ∃ pieces, EscapesTo character pieces := by
  by_cases shortened :
      character ∈ ['"', '\\', '\n', '\r', '\t', '\x08', '\x0c']
  · simp only [List.mem_cons, List.not_mem_nil, or_false] at shortened
    rcases shortened with rfl | rfl | rfl | rfl | rfl | rfl | rfl <;>
      exact ⟨_, escapesTo_short rfl rfl rfl⟩
  · simp only [List.mem_cons, List.not_mem_nil, or_false, not_or] at shortened
    have written : escape character =
        if character.toNat < 0x20 then
          '\\' :: 'u' :: Hexadecimal.padded 4 character.toNat
        else [character] := by
      unfold escape
      split <;> simp_all
    by_cases control : character.toNat < 0x20
    · refine ⟨[.unit character.toNat], ?_, joined?_unit control⟩
      intro rest
      rw [written, if_pos control]
      exact pieces?_unit (escapedUnit?_padded _ control) rest
    · refine ⟨(String.utf8EncodeChar character).map .plain, ?_,
        joined?_plain _⟩
      intro rest
      rw [written, if_neg control]
      simp only [Utf8.octets_cons, Utf8.octets_nil, List.append_nil]
      exact pieces?_ordinary_append
        (fun octet member => isOrdinary_of_mem_utf8EncodeChar
          (Nat.not_lt.mp control) shortened.1 shortened.2.1 member) rest

theorem pieces?_escapes (characters : List Char) (rest : List UInt8) :
    ∃ pieces,
      pieces? (Utf8.octets (characters.flatMap escape) ++
        Octet.quote :: rest) = some (pieces, rest) ∧
      joined? pieces = some (Utf8.octets characters) := by
  induction characters with
  | nil => exact ⟨[], rfl, rfl⟩
  | cons character characters ih =>
      obtain ⟨first, escapes⟩ := exists_escapesTo character
      obtain ⟨others, read, joins⟩ := ih
      refine ⟨first ++ others, ?_, ?_⟩
      · rw [List.flatMap_cons, Utf8.octets_append, List.append_assoc,
          escapes.read, read]
        rfl
      · rw [escapes.joins, joins]
        rfl

theorem text?_textCharacters (content : String) (rest : List UInt8) :
    ∃ inside, Utf8.octets (textCharacters content) ++ rest =
        Octet.quote :: inside ∧
      text? inside = some (some content, rest) := by
  obtain ⟨pieces, read, joins⟩ := pieces?_escapes content.toList rest
  refine ⟨Utf8.octets (content.toList.flatMap escape) ++
    Octet.quote :: rest, ?_, ?_⟩
  · rw [textCharacters, Utf8.octets_cons, Utf8.octets_append,
      Utf8.utf8EncodeChar_of_ascii (by decide)]
    simp [Utf8.octets]
    rfl
  · simp only [text?, read, Option.map_some, joins, Option.bind_some,
      ← Utf8.encode_eq_octets, Utf8.decode?_encode]

end ScheduledJobs.Document.Json
