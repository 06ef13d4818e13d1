import ScheduledJobs.Document.Number
import ScheduledJobs.Document.Toml.Lexical
import ScheduledJobs.Instant.Basic

/-!
# Numbers, dates and other atoms of TOML
-/

namespace ScheduledJobs.Document.Toml

open Text

/-- Digits that single underscores may divide, without the underscores. -/
def dividedDigits? (isDigit : Char → Bool) :
    List Char → Option (List Char × List Char)
  | [] => none
  | digit :: rest =>
      if isDigit digit then
        match rest with
        | '_' :: after =>
            (dividedDigits? isDigit after).map fun (digits, rest) =>
              (digit :: digits, rest)
        | next :: after =>
            if isDigit next then
              (dividedDigits? isDigit (next :: after)).map
                fun (digits, rest) => (digit :: digits, rest)
            else some ([digit], next :: after)
        | [] => some ([digit], [])
      else none

/-- Whether a minus sign stands in front, and what follows the sign. -/
def sign : List Char → Bool × List Char
  | '-' :: rest => (true, rest)
  | '+' :: rest => (false, rest)
  | rest => (false, rest)

/-- The digits of a decimal number: a zero alone, or digits of which the first
is not zero. -/
def wholeDigits? : List Char → Option (List Char × List Char)
  | '0' :: rest => some (['0'], rest)
  | rest => dividedDigits? Char.isDigit rest

/-- A number that fits in 64 bits with a sign. -/
def bounded? (number : Int) : Option Value :=
  if Int64.minValue.toInt ≤ number ∧ number ≤ Int64.maxValue.toInt then
    some (.integer number)
  else none

/-- A number in the base of a power of two. -/
def basedInteger? (base : Nat) (rest : List Char) :
    Option (Value × List Char) := do
  let isDigit (character : Char) : Bool :=
    (Hexadecimal.digit? character).any (· < base)
  let (digits, rest) ← dividedDigits? isDigit rest
  let values ← digits.mapM Hexadecimal.digit?
  let number := values.foldl (fun number digit => number * base + digit) 0
  return (← bounded? number, rest)

def integer? : List Char → Option (Value × List Char)
  | '0' :: 'x' :: rest => basedInteger? 16 rest
  | '0' :: 'o' :: rest => basedInteger? 8 rest
  | '0' :: 'b' :: rest => basedInteger? 2 rest
  | rest => do
      let (negative, rest) := sign rest
      let (digits, rest) ← wholeDigits? rest
      let number : Int := Decimal.value digits
      return (← bounded? (if negative then -number else number), rest)

def pointDigits? : List Char → Option (List Char × List Char)
  | '.' :: rest => dividedDigits? Char.isDigit rest
  | _ => none

def exponent? : List Char → Option (Int × List Char)
  | 'e' :: rest | 'E' :: rest => do
      let (negative, rest) := sign rest
      let (digits, rest) ← dividedDigits? Char.isDigit rest
      let size : Int := Decimal.value digits
      return (if negative then -size else size, rest)
  | _ => none

/-- A number without end or no number at all. -/
def special? (rest : List Char) : Option (Value × List Char) :=
  match (sign rest).2 with
  | 'i' :: 'n' :: 'f' :: rest | 'n' :: 'a' :: 'n' :: rest =>
      some (.fraction false 0 0, rest)
  | _ => none

/-- A number with a fraction or an exponent; a positive one has to be within
double precision. -/
def decimal? (rest : List Char) : Option (Value × List Char) := do
  let (negative, rest) := sign rest
  let (digits, rest) ← wholeDigits? rest
  let (pointPart, exponent, rest) ←
    match pointDigits? rest with
    | some (pointPart, rest) =>
        match exponent? rest with
        | some (exponent, rest) => some (pointPart, exponent, rest)
        | none => some (pointPart, 0, rest)
    | none =>
        (exponent? rest).map fun (exponent, rest) => ([], exponent, rest)
  match Value.ofDecimal negative (digits ++ pointPart)
      (exponent - pointPart.length), negative with
  | .unreadable, false => none
  | .unreadable, true => return (.fraction true 0 0, rest)
  | value, _ => return (value, rest)

/-- Exactly `count` digits, with the number they denote. -/
def fixedDigits? (count : Nat) (rest : List Char) : Option (Nat × List Char) :=
  let digits := rest.take count
  if digits.length = count ∧ digits.all Char.isDigit then
    some (Decimal.value digits, rest.drop count)
  else none

/-- A number of two digits that is not too great. -/
def twoDigits? (greatest : Nat) (rest : List Char) :
    Option (Nat × List Char) :=
  (fixedDigits? 2 rest).filter fun (number, _) => number ≤ greatest

def expect? (expected : Char) : List Char → Option (List Char)
  | character :: rest => if character = expected then some rest else none
  | [] => none

def date? (rest : List Char) : Option (List Char × List Char) := do
  let (year, rest) ← fixedDigits? 4 rest
  let (month, rest) ← twoDigits? 12 (← expect? '-' rest)
  let (day, rest) ← twoDigits? 31 (← expect? '-' rest)
  if 1 ≤ month ∧ 1 ≤ day ∧ day ≤ daysInMonth year month then
    return (Decimal.padded 4 year ++ '-' :: Decimal.padded 2 month ++
      '-' :: Decimal.padded 2 day, rest)
  else none

/-- The text of the fraction of a second, if there is one; it has at most nine
digits and does not end in zeros. -/
def secondFraction? : List Char → Option (List Char × List Char)
  | '.' :: rest =>
      match rest.takeWhile Char.isDigit with
      | [] => none
      | digits =>
          let kept := ((digits.take 9).reverse.dropWhile (· == '0')).reverse
          some (if kept.isEmpty then [] else '.' :: kept,
            rest.dropWhile Char.isDigit)
  | rest => some ([], rest)

def time? (rest : List Char) : Option (List Char × List Char) := do
  let (hour, rest) ← twoDigits? 23 rest
  let (minute, rest) ← twoDigits? 59 (← expect? ':' rest)
  let (second, rest) ← twoDigits? 60 (← expect? ':' rest)
  let (fraction, rest) ← secondFraction? rest
  return (Decimal.padded 2 hour ++ ':' :: Decimal.padded 2 minute ++
    ':' :: Decimal.padded 2 second ++ fraction, rest)

/-- The text of an offset from Universal Time, if there is one. -/
def offset (rest : List Char) : List Char × List Char :=
  let signed (mark : Char) (after : List Char) :
      Option (List Char × List Char) := do
    let (hours, after) ← twoDigits? 23 after
    let (minutes, after) ← twoDigits? 59 (← expect? ':' after)
    let mark := if hours = 0 ∧ minutes = 0 then '+' else mark
    return (mark :: (Decimal.padded 2 hours ++
      ':' :: Decimal.padded 2 minutes), after)
  match rest with
  | 'Z' :: after | 'z' :: after => (['Z'], after)
  | '+' :: after => (signed '+' after).getD ([], rest)
  | '-' :: after => (signed '-' after).getD ([], rest)
  | _ => ([], rest)

/-- The text of a time of day, perhaps with an offset, after a date. -/
def timeOfDate? : List Char → Option (List Char × List Char)
  | 'T' :: rest | 't' :: rest | ' ' :: rest =>
      (time? rest).map fun (time, after) =>
        let (offset, rest) := offset after
        ('T' :: (time ++ offset), rest)
  | _ => none

/-- A date, a time, or both. -/
def moment? (rest : List Char) : Option (Value × List Char) :=
  let moment? : Option (List Char × List Char) :=
    match date? rest with
    | some (date, after) =>
        match timeOfDate? after with
        | some (time, rest) => some (date ++ time, rest)
        | none => some (date, after)
    | none => time? rest
  moment?.map fun (characters, rest) =>
    (.moment (String.ofList characters), rest)

/-- A value that is neither a list nor a table. -/
def scalar? : List Char → Option (Value × List Char)
  | 't' :: 'r' :: 'u' :: 'e' :: rest => some (.boolean true, rest)
  | 'f' :: 'a' :: 'l' :: 's' :: 'e' :: rest => some (.boolean false, rest)
  | '"' :: rest =>
      (string? ('"' :: rest)).map fun (characters, rest) =>
        (.text (String.ofList characters), rest)
  | '\'' :: rest =>
      (string? ('\'' :: rest)).map fun (characters, rest) =>
        (.text (String.ofList characters), rest)
  | rest =>
      moment? rest <|> decimal? rest <|> special? rest <|> integer? rest

end ScheduledJobs.Document.Toml
