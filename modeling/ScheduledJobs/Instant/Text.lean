import ScheduledJobs.Instant.Basic
import ScheduledJobs.Text.Blank
import ScheduledJobs.Text.Decimal

/-!
# Timestamps

Instants are written as `2026-11-01T02:00:00Z`, with as many groups of three
digits after the seconds as the nanoseconds need. Reading also admits offsets
from Universal Time, numbers without leading zeros and blanks between the
numbers.
-/

namespace ScheduledJobs.Instant

open Text

/-- Four digits for a year from 0 to 9999; otherwise a sign and at least four
digits. -/
def yearText (year : Int) : List Char :=
  if 0 ≤ year ∧ year ≤ 9999 then
    Decimal.padded 4 year.toNat
  else if year < 0 then
    '-' :: Decimal.padded 4 year.natAbs
  else
    '+' :: Decimal.padded 4 year.natAbs

/-- The fraction of a second with three, six or nine digits; a whole second has
none. -/
def fractionText (nanosecond : Nat) : List Char :=
  if nanosecond = 0 then
    []
  else if nanosecond % 1000000 = 0 then
    '.' :: Decimal.padded 3 (nanosecond / 1000000)
  else if nanosecond % 1000 = 0 then
    '.' :: Decimal.padded 6 (nanosecond / 1000)
  else
    '.' :: Decimal.padded 9 nanosecond

def characters (instant : Instant) : List Char :=
  yearText instant.date.year ++ '-' :: Decimal.padded 2 instant.date.month ++
    '-' :: Decimal.padded 2 instant.date.day ++
    'T' :: Decimal.padded 2 instant.hour ++
    ':' :: Decimal.padded 2 instant.minute ++
    ':' :: Decimal.padded 2 instant.second ++
    fractionText instant.nanosecond ++ ['Z']

/-- The timestamp of an instant. -/
def text (instant : Instant) : String := String.ofList instant.characters

def skipBlanks (rest : List Char) : List Char := rest.dropWhile isBlank

/-- The leading digits, at most `width` of them, and what follows. -/
def takeDigits (width : Nat) (rest : List Char) : List Char × List Char :=
  let digits := (rest.take width).takeWhile Char.isDigit
  (digits, rest.drop digits.length)

/-- A number of at least one and at most `width` digits, after blanks. -/
def number? (width : Nat) (rest : List Char) : Option (Nat × List Char) :=
  match takeDigits width (skipBlanks rest) with
  | ([], _) => none
  | (digits, after) => some (Decimal.value digits, after)

/-- A year: with a sign any number of digits, without one at most four. -/
def year? (rest : List Char) : Option (Int × List Char) :=
  match skipBlanks rest with
  | '-' :: digits => signed (-1) digits
  | '+' :: digits => signed 1 digits
  | unsigned =>
      (number? 4 unsigned).map fun (number, after) => (Int.ofNat number, after)
where
  signed (sign : Int) (rest : List Char) : Option (Int × List Char) :=
    match takeDigits rest.length rest with
    | ([], _) => none
    | (digits, after) => some (sign * Decimal.value digits, after)

/-- A separator, after blanks. -/
def separator? (separator : Char) (rest : List Char) : Option (List Char) :=
  match skipBlanks rest with
  | character :: after => if character = separator then some after else none
  | [] => none

/-- The character between date and time of day. -/
def divider? : List Char → Option (List Char)
  | 'T' :: after | 't' :: after | ' ' :: after => some after
  | _ => none

/-- The nanoseconds after a point; digits after the ninth are dropped. -/
def fraction? : List Char → Option (Nat × List Char)
  | '.' :: after =>
      match takeDigits 9 after with
      | ([], _) => none
      | (digits, rest) =>
          some (Decimal.value (digits ++
              List.replicate (9 - digits.length) '0'),
            rest.dropWhile Char.isDigit)
  | rest => some (0, rest)

def twoDigits? : List Char → Option (Nat × List Char)
  | tens :: units :: after => do
      let high ← Decimal.digit? tens
      let low ← Decimal.digit? units
      return (high * 10 + low, after)
  | _ => none

/-- The hours and minutes of an offset, as minutes. -/
def offsetSize? (rest : List Char) : Option (Int × List Char) := do
  let (hours, after) ← twoDigits? rest
  let (minutes, after) ←
    twoDigits? (after.dropWhile fun character =>
      character == ':' || isBlank character)
  if hours < 24 && minutes < 60 then
    return (hours * 60 + minutes, after)
  else
    none

def offset? (rest : List Char) : Option (Int × List Char) :=
  match skipBlanks rest with
  | 'Z' :: after | 'z' :: after => some (0, after)
  | '+' :: after => offsetSize? after
  | '-' :: after | '−' :: after =>
      (offsetSize? after).map fun (size, following) => (-size, following)
  | first :: second :: third :: after =>
      if [first, second, third].map Char.toLower = ['u', 't', 'c'] then
        some (0, after)
      else
        none
  | _ => none

/-- The instant that the characters of a timestamp denote. -/
def ofCharacters? (timestamp : List Char) : Option Instant := do
  let (year, rest) ← year? timestamp
  let (month, rest) ← number? 2 (← separator? '-' rest)
  let (day, rest) ← number? 2 (← separator? '-' rest)
  let (hour, rest) ← number? 2 (← divider? rest)
  let (minute, rest) ← number? 2 (← separator? ':' rest)
  let (second, rest) ← number? 2 (← separator? ':' rest)
  let (nanosecond, rest) ← fraction? rest
  let (offset, rest) ← offset? rest
  if rest.all isBlank then
    let date ← Date.of? year month day
    let shown ← of? date hour minute second nanosecond
    shown.withoutOffset? offset
  else
    none

def ofText? (timestamp : String) : Option Instant :=
  ofCharacters? timestamp.toList

end ScheduledJobs.Instant
