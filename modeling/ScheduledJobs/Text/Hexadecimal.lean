/-!
# Hexadecimal numerals

Octets are written as two lower-case digits each, and numbers padded with
zeros to a given width.
-/

namespace ScheduledJobs.Text.Hexadecimal

def digit (number : Nat) : Char := Nat.digitChar number

/-- The value of a digit of either case. -/
def digit? (character : Char) : Option Nat :=
  if character.isDigit then
    some (character.toNat - '0'.toNat)
  else if 'a' ≤ character && character ≤ 'f' then
    some (character.toNat - 'a'.toNat + 10)
  else if 'A' ≤ character && character ≤ 'F' then
    some (character.toNat - 'A'.toNat + 10)
  else
    none

def ofOctet (octet : UInt8) : List Char :=
  [digit (octet.toNat / 16), digit (octet.toNat % 16)]

/-- Two lower-case digits for every octet. -/
def ofOctets (octets : List UInt8) : List Char := octets.flatMap ofOctet

def toOctets? : List Char → Option (List UInt8)
  | [] => some []
  | [_] => none
  | high :: low :: rest => do
      let upper ← digit? high
      let lower ← digit? low
      let octets ← toOctets? rest
      return UInt8.ofNat (upper * 16 + lower) :: octets

/-- The lower-case digits of a number, without leading zeros. -/
def natural (number : Nat) : List Char := Nat.toDigits 16 number

/-- The lower-case digits of a number, with zeros in front up to the width. -/
def padded (width number : Nat) : List Char :=
  let digits := natural number
  List.replicate (width - digits.length) '0' ++ digits

/-- The capital digits of a number, with zeros in front up to the width. -/
def capitals (width number : Nat) : List Char :=
  (padded width number).map Char.toUpper

theorem ofOctets_cons (octet : UInt8) (octets : List UInt8) :
    ofOctets (octet :: octets) =
      digit (octet.toNat / 16) :: digit (octet.toNat % 16) ::
        ofOctets octets := rfl

theorem digit?_digit : ∀ number < 16, digit? (digit number) = some number := by
  decide

theorem toOctets?_ofOctets (octets : List UInt8) :
    toOctets? (ofOctets octets) = some octets := by
  induction octets with
  | nil => rfl
  | cons octet octets ih =>
      have below := octet.toNat_lt
      have joined :
          octet.toNat / 16 * 16 + octet.toNat % 16 = octet.toNat := by omega
      simp only [ofOctets_cons, toOctets?, ih,
        digit?_digit _ (show octet.toNat / 16 < 16 by omega),
        digit?_digit _ (show octet.toNat % 16 < 16 by omega), joined,
        UInt8.ofNat_toNat, Option.bind_eq_bind, Option.bind_some,
        Option.pure_def]

theorem ofOctets_injective {first second : List UInt8}
    (equal : ofOctets first = ofOctets second) : first = second := by
  have read := congrArg toOctets? equal
  simpa [toOctets?_ofOctets] using read

end ScheduledJobs.Text.Hexadecimal
