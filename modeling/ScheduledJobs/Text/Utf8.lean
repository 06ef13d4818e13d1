/-!
# Text as octets

UTF-8 lengths, the prefix of a text that fills a given number of octets, and
reading octets back as text, either exactly or with a mark in place of every
broken sequence.
-/

namespace ScheduledJobs.Text.Utf8

def length : List Char → Nat
  | [] => 0
  | character :: rest => character.utf8Size + length rest

@[simp] theorem length_nil : length [] = 0 := rfl

@[simp] theorem length_cons (character : Char) (characters : List Char) :
    length (character :: characters) =
      character.utf8Size + length characters := rfl

@[simp] theorem length_append (first second : List Char) :
    length (first ++ second) = length first + length second := by
  induction first with
  | nil => simp
  | cons character rest ih =>
      simp [ih, Nat.add_assoc]

/-- The prefix that fills exactly `size` octets; there is none when the text is
shorter or when a character would have to be cut. -/
def take? : (size : Nat) → List Char → Option (List Char)
  | 0, _ => some []
  | _ + 1, [] => none
  | size + 1, character :: rest =>
      if character.utf8Size ≤ size + 1 then
        (take? (size + 1 - character.utf8Size) rest).map (character :: ·)
      else
        none
  termination_by _ characters => characters

def encode (text : String) : List UInt8 :=
  text.toUTF8.data.toList

/-- The text that the octets spell, if they are well-formed UTF-8. -/
def decode? (octets : List UInt8) : Option String :=
  String.fromUTF8? ⟨⟨octets⟩⟩

@[simp] theorem decode?_encode (text : String) :
    decode? (encode text) = some text := by
  simp only [decode?, encode, String.fromUTF8?, String.toUTF8_eq_toByteArray,
    Array.toArray_toList, dif_pos text.isValidUTF8]
  rfl

/-- The mark that stands for a broken sequence of octets. -/
def replacement : Char := '\uFFFD'

/-- Whether the octet continues a character that an earlier octet began. -/
def continues (octet : UInt8) : Bool := 0x80 ≤ octet && octet ≤ 0xBF

/-- The octets that may follow `lead` directly, as a range, and the number of
octets that follow it altogether. -/
def shape? (lead : UInt8) : Option ((UInt8 × UInt8) × Nat) :=
  if 0xC2 ≤ lead && lead ≤ 0xDF then some ((0x80, 0xBF), 1)
  else if lead == 0xE0 then some ((0xA0, 0xBF), 2)
  else if lead == 0xED then some ((0x80, 0x9F), 2)
  else if 0xE1 ≤ lead && lead ≤ 0xEF then some ((0x80, 0xBF), 2)
  else if lead == 0xF0 then some ((0x90, 0xBF), 3)
  else if 0xF1 ≤ lead && lead ≤ 0xF3 then some ((0x80, 0xBF), 3)
  else if lead == 0xF4 then some ((0x80, 0x8F), 3)
  else none

/-- The longest start of the octets that continues a character of which
`missing` octets are still to come. -/
def continuation : (missing : Nat) → List UInt8 → List UInt8
  | 0, _ => []
  | _ + 1, [] => []
  | missing + 1, octet :: rest =>
      if continues octet then octet :: continuation missing rest else []

/-- Octets after `lead` that belong to the character it begins, and the
character itself when none of its octets is missing. -/
def character (lead : UInt8) (rest : List UInt8) : List UInt8 × Char :=
  if lead < 0x80 then
    ([], Char.ofNat lead.toNat)
  else
    match shape? lead, rest with
    | some ((least, greatest), count), second :: others =>
        if least ≤ second && second ≤ greatest then
          let tail := second :: continuation (count - 1) others
          if tail.length = count then
            let bits := lead.toNat % (64 >>> count)
            (tail, Char.ofNat (tail.foldl
              (fun code octet => code * 64 + octet.toNat % 64) bits))
          else
            (tail, replacement)
        else
          ([], replacement)
    | _, _ => ([], replacement)

/-- Read octets as text, with one mark for each longest broken sequence. -/
def decodeLossy : List UInt8 → List Char
  | [] => []
  | lead :: rest =>
      let (tail, found) := character lead rest
      found :: decodeLossy (rest.drop tail.length)
  termination_by octets => octets.length

end ScheduledJobs.Text.Utf8
