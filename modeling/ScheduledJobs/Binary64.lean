import ScheduledJobs.Text.Decimal

/-!
# Numbers of double precision

A number of double precision is a whole number of at most 53 bits times a power
of two. Ratios are rounded to the nearest such number, and a number is written
with as few decimal digits as tell it from its neighbours.
-/

namespace ScheduledJobs

open Text

/-- The number `mantissa * 2 ^ exponent`. -/
structure Binary64 where
  mantissa : Nat
  exponent : Int
  deriving DecidableEq, Inhabited

namespace Binary64

def leastExponent : Int := -1074

def greatestExponent : Int := 971

/-- The smallest mantissa of a number that is not among the smallest: the one
of 53 bits. -/
def leastMantissa : Nat := 0x10000000000000

def zero : Binary64 := ⟨0, leastExponent⟩

def isZero (number : Binary64) : Bool := number.mantissa == 0

/-- The ratio `numerator * base ^ exponent / denominator`, as a numerator and a
denominator. -/
def scaled (base numerator denominator : Nat) (exponent : Int) : Nat × Nat :=
  (numerator * Nat.pow base exponent.toNat,
    denominator * Nat.pow base (-exponent).toNat)

def ratio (number : Binary64) : Nat × Nat :=
  scaled 2 number.mantissa 1 number.exponent

/-- The whole number nearest to a ratio; of two equally near ones, the even
one. -/
def nearest (numerator denominator : Nat) : Nat :=
  let quotient := numerator / denominator
  let twice := 2 * (numerator % denominator)
  if twice < denominator ∨ twice = denominator ∧ quotient % 2 = 0 then quotient
  else quotient + 1

/-- The greatest number whose power of `base` is at most the ratio, when it is
`guess` or one less. -/
def logarithm (base numerator denominator : Nat) (guess : Int) : Int :=
  let (least, one) := scaled base denominator 1 guess
  if least ≤ numerator * one then guess else guess - 1

/-- The number nearest to a ratio, unless it is too great. -/
def ofRatio? (numerator denominator : Nat) : Option Binary64 :=
  if numerator = 0 then some zero
  else
    let size := logarithm 2 numerator denominator
      ((numerator.log2 : Int) - denominator.log2)
    let exponent := max leastExponent (size - 52)
    let (numerator, denominator) :=
      scaled 2 numerator denominator (-exponent)
    let mantissa := nearest numerator denominator
    let rounded : Binary64 :=
      if mantissa = 2 * leastMantissa then ⟨leastMantissa, exponent + 1⟩
      else ⟨mantissa, exponent⟩
    if rounded.exponent ≤ greatestExponent then some rounded else none

/-- The product of two numbers, unless it is too great. -/
def times? (first second : Binary64) : Option Binary64 :=
  ofRatio? (first.ratio.1 * second.ratio.1) (first.ratio.2 * second.ratio.2)

/-- The quotient of two numbers, unless it is too great. -/
def over? (first second : Binary64) : Option Binary64 :=
  ofRatio? (first.ratio.1 * second.ratio.2) (first.ratio.2 * second.ratio.1)

def greatestPower : Nat := 308

/-- A power of ten, unless it is too great. -/
def power? (exponent : Nat) : Option Binary64 :=
  ofRatio? (Nat.pow 10 exponent) 1

/-- The number multiplied by a power of ten, unless the product is too
great. -/
def raised? (number : Binary64) (exponent : Nat) : Option Binary64 :=
  if number.isZero then some number
  else if exponent ≤ greatestPower then
    (power? exponent).bind number.times?
  else none

/-- The number divided by a power of ten; one that is too great is divided in
turns. -/
def lowered? (number : Binary64) (exponent : Nat) : Option Binary64 :=
  if number.isZero then some number
  else if exponent ≤ greatestPower then
    (power? exponent).bind number.over?
  else
    ((power? greatestPower).bind number.over?).bind fun quotient =>
      lowered? quotient (exponent - greatestPower)
  termination_by exponent
  decreasing_by simp_all [greatestPower]; omega

/-- The bounds between which all numbers are rounded to the given one, in
quarters of the power of two of its exponent. -/
def bounds (number : Binary64) : Nat × Nat :=
  let below :=
    if number.mantissa = leastMantissa ∧ leastExponent < number.exponent then 1
    else 2
  (4 * number.mantissa - below, 4 * number.mantissa + 2)

/-- Whether `digits * 10 ^ scale` is rounded to the number. A bound itself is
rounded to the number when its mantissa is even. -/
def isReadFrom (number : Binary64) (digits : Nat) (scale : Int) : Bool :=
  let (lower, upper) := number.bounds
  let (quarter, whole) := scaled 2 1 4 number.exponent
  let (numerator, denominator) := scaled 10 digits 1 scale
  let found := numerator * whole
  let least := lower * quarter * denominator
  let greatest := upper * quarter * denominator
  if number.mantissa % 2 = 0 then least ≤ found && found ≤ greatest
  else least < found && found < greatest

/-- The decimal number of the given scale that is nearest to the number among
those that are rounded to it, if there is one. -/
def digitsAt? (number : Binary64) (scale : Int) : Option Nat :=
  let (numerator, denominator) :=
    scaled 10 number.ratio.1 number.ratio.2 (-scale)
  let near := nearest numerator denominator
  let low := numerator / denominator
  let far := if near = low then low + 1 else low
  [near, far].find? fun digits => number.isReadFrom digits scale

/-- A decimal number without zeros at its end. -/
def withoutZeros (digits : Nat) (scale : Int) : Nat × Int :=
  let kept := (Decimal.natural digits).reverse.dropWhile (· == '0')
  (Decimal.value kept.reverse,
    scale + ((Decimal.natural digits).length - kept.length : Nat))

/-- Most digits that are needed to tell a number from its neighbours. -/
def mostDigits : Nat := 17

/-- The shortest decimal number that is rounded to the number, as digits and
the power of ten by which they are multiplied. -/
def shortest (number : Binary64) : Nat × Int :=
  if number.isZero then (0, 0)
  else
    let (numerator, denominator) := number.ratio
    let guess : Int :=
      (Decimal.natural numerator).length - (Decimal.natural denominator).length
    let size := logarithm 10 numerator denominator guess
    let found? := (List.range mostDigits).findSome? fun (count : Nat) =>
      let scale := size - count
      (number.digitsAt? scale).map fun digits => withoutZeros digits scale
    found?.getD (0, 0)

end Binary64

end ScheduledJobs
