import ScheduledJobs.Text.Utf8

/-!
# Octets of characters

An ASCII character is a single octet below 0x80, and every octet of any other
character is at least 0x80.
-/

namespace ScheduledJobs.Text.Utf8

/-- The octets of characters, one character after the other. -/
def octets (characters : List Char) : List UInt8 :=
  characters.flatMap String.utf8EncodeChar

@[simp] theorem octets_nil : octets [] = [] := rfl

@[simp] theorem octets_cons (character : Char) (characters : List Char) :
    octets (character :: characters) =
      String.utf8EncodeChar character ++ octets characters := rfl

@[simp] theorem octets_append (first second : List Char) :
    octets (first ++ second) = octets first ++ octets second :=
  List.flatMap_append

theorem encode_ofList (characters : List Char) :
    encode (String.ofList characters) = octets characters := by
  simp [encode, octets, List.utf8Encode]

theorem encode_eq_octets (text : String) :
    encode text = octets text.toList := by
  rw [← encode_ofList, String.ofList_toList]

theorem encode_append (first second : String) :
    encode (first ++ second) = encode first ++ encode second := by
  simp only [encode_eq_octets, String.toList_append, octets_append]

theorem length_encode (text : String) :
    (encode text).length = text.utf8ByteSize := rfl

theorem encode_injective {first second : String}
    (equal : encode first = encode second) : first = second := by
  have read := congrArg decode? equal
  simpa only [decode?_encode, Option.some.injEq] using read

theorem octets_injective {first second : List Char}
    (equal : octets first = octets second) : first = second := by
  rw [← encode_ofList, ← encode_ofList] at equal
  simpa using congrArg String.toList (encode_injective equal)

theorem octets_eq_nil_iff {characters : List Char} :
    octets characters = [] ↔ characters = [] := by
  constructor
  · intro isNil
    exact octets_injective (isNil.trans octets_nil.symm)
  · rintro rfl
    exact octets_nil

theorem utf8EncodeChar_of_ascii {character : Char}
    (ascii : character.toNat < 0x80) :
    String.utf8EncodeChar character = [UInt8.ofNat character.toNat] := by
  have small : character.val.toNat ≤ 0x7F := Nat.le_of_lt_succ ascii
  simp only [String.utf8EncodeChar, small, if_true]
  rfl

/-- No octet of a character beyond ASCII could be taken for an ASCII one. -/
theorem le_of_mem_utf8EncodeChar {character : Char}
    (beyond : 0x80 ≤ character.toNat) {octet : UInt8}
    (member : octet ∈ String.utf8EncodeChar character) :
    0x80 ≤ octet := by
  have notSmall : ¬character.val.toNat ≤ 0x7F := Nat.not_le.mpr beyond
  have atLeast (number : Nat) (low : 0x80 ≤ number) (high : number < 0x100) :
      0x80 ≤ UInt8.ofNat number := by
    rw [UInt8.le_iff_toNat_le, UInt8.toNat_ofNat', Nat.mod_eq_of_lt high]
    exact low
  simp only [String.utf8EncodeChar, notSmall, if_false] at member
  split at member
  · simp only [List.mem_cons, List.not_mem_nil, or_false] at member
    rcases member with rfl | rfl <;> exact atLeast _ (by omega) (by omega)
  · split at member
    · simp only [List.mem_cons, List.not_mem_nil, or_false] at member
      rcases member with rfl | rfl | rfl <;>
        exact atLeast _ (by omega) (by omega)
    · simp only [List.mem_cons, List.not_mem_nil, or_false] at member
      rcases member with rfl | rfl | rfl | rfl <;>
        exact atLeast _ (by omega) (by omega)

end ScheduledJobs.Text.Utf8
