import ScheduledJobs.Text.Hexadecimal
import ScheduledJobs.Text.Utf8

/-!
# Percent-encoded text

A character that may not stand for itself is written octet by octet, each as a
percent sign and two capital hexadecimal digits.
-/

namespace ScheduledJobs.Text.Percent

/-- Whether the character is no printable ASCII character. -/
def isUnprintable (character : Char) : Bool :=
  character.toNat < 0x20 || 0x7F ≤ character.toNat

/-- The octets of a character, each after a percent sign. -/
def spelled (character : Char) : List Char :=
  (Utf8.encode (String.singleton character)).flatMap fun octet =>
    '%' :: Hexadecimal.capitals 2 octet.toNat

/-- Spell out the characters that are unprintable or reserved. -/
def encode (reserved : List Char) (characters : List Char) : List Char :=
  characters.flatMap fun character =>
    if isUnprintable character || reserved.contains character then
      spelled character
    else
      [character]

/-- The octets of a text in which every spelled octet stands for itself; a
percent sign without two digits is kept. -/
def decode : List Char → List UInt8
  | [] => []
  | '%' :: high :: low :: rest =>
      match Hexadecimal.digit? high, Hexadecimal.digit? low with
      | some upper, some lower =>
          UInt8.ofNat (upper * 16 + lower) :: decode rest
      | _, _ => '%'.toNat.toUInt8 :: decode (high :: low :: rest)
  | character :: rest =>
      Utf8.encode (String.singleton character) ++ decode rest

end ScheduledJobs.Text.Percent
