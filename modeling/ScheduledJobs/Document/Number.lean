import ScheduledJobs.Binary64
import ScheduledJobs.Document.Value

/-!
# Numbers with a fraction

Numbers that are not whole are rounded to double precision and kept as the
shortest decimal numbers that tell them apart.
-/

namespace ScheduledJobs.Document

open Text

namespace Value

/-- A number of double precision; one that is too great is unreadable. -/
def ofBinary64 (negative : Bool) (number? : Option Binary64) : Value :=
  match number? with
  | some number =>
      .fraction negative number.shortest.1 number.shortest.2
  | none => .unreadable

/-- The number that a numeral denotes when it is multiplied by a power of
ten. -/
def ofDecimal (negative : Bool) (numeral : List Char) (scale : Int) : Value :=
  let digits := numeral.dropWhile (· == '0')
  let point := digits.length + scale
  if digits.isEmpty ∨ point < -400 then .fraction negative 0 0
  else if 400 < point then .unreadable
  else
    let (numerator, denominator) :=
      Binary64.scaled 10 (Decimal.value digits) 1 scale
    ofBinary64 negative (Binary64.ofRatio? numerator denominator)

/-- A number that grows by digits as long as it fits in 64 bits, and the digits
that are left over. -/
def grow (number : Nat) : List Char → Nat × List Char
  | [] => (number, [])
  | digit :: others =>
      let next := Decimal.accumulate number [digit]
      if next < UInt64.size then grow next others else (number, digit :: others)

/-- The number that the digits before and after a point denote when it is
multiplied by a power of ten. Digits that do not fit in 64 bits count as zeros,
and both the digits and the product are rounded. -/
def ofNumeral (negative : Bool) (wholePart pointPart : List Char)
    (exponent : Int) : Value :=
  let (number, zeros) := grow 0 wholePart
  let (number, dropped) := grow number pointPart
  let scale : Int := exponent + zeros.length + dropped.length -
    pointPart.length
  ofBinary64 negative ((Binary64.ofRatio? number 1).bind fun number =>
    if 0 ≤ scale then number.raised? scale.toNat
    else number.lowered? (-scale).toNat)

end Value

end ScheduledJobs.Document
