/-!
# Decimal numerals

Whole numbers are written with the fewest digits, or padded with zeros to a
given width; reading gives the number back.
-/

namespace ScheduledJobs.Text.Decimal

/-- The value of an ASCII digit. -/
def digit? (character : Char) : Option Nat :=
  if character.isDigit then some (character.toNat - '0'.toNat) else none

/-- The digits of a natural number, without leading zeros. -/
def natural (number : Nat) : List Char := Nat.toDigits 10 number

/-- A minus sign in front of the digits of a negative number. -/
def integer : Int → List Char
  | .ofNat number => natural number
  | .negSucc number => '-' :: natural (number + 1)

/-- The digits of a number, with zeros in front up to the width. -/
def padded (width number : Nat) : List Char :=
  let digits := natural number
  List.replicate (width - digits.length) '0' ++ digits

/-- The number that a list of digits denotes in front of which `high` has
already been read. -/
def accumulate (high : Nat) (digits : List Char) : Nat :=
  digits.foldl (fun number digit => number * 10 + (digit.toNat - '0'.toNat))
    high

def value (digits : List Char) : Nat := accumulate 0 digits

@[simp] theorem accumulate_nil (high : Nat) : accumulate high [] = high := rfl

@[simp] theorem accumulate_cons (high : Nat) (digit : Char)
    (digits : List Char) :
    accumulate high (digit :: digits) =
      accumulate (high * 10 + (digit.toNat - '0'.toNat)) digits := by
  simp only [accumulate, List.foldl_cons]

theorem accumulate_append (high : Nat) (first second : List Char) :
    accumulate high (first ++ second) =
      accumulate (accumulate high first) second :=
  List.foldl_append

end ScheduledJobs.Text.Decimal
