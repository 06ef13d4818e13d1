/-!
# Text spelled with letters, digits and hyphens

A text beyond ASCII is spelled by its ASCII characters, a hyphen and a row of
numbers. Every number says how far it is to the next character that is put in,
counted over the places of the text and then over the code points. The numbers
have digits of base 36; a digit below the threshold of its place ends one, and
the thresholds adapt to the size of the numbers before.
-/

namespace ScheduledJobs.Text.Punycode

/-- The value of a digit: the letters come before the figures. -/
def digit? (character : Char) : Option Nat :=
  if character.isLower then some (character.toNat - 'a'.toNat)
  else if character.isUpper then some (character.toNat - 'A'.toNat)
  else if character.isDigit then some (character.toNat - '0'.toNat + 26)
  else none

def digit (value : Nat) : Char :=
  if value < 26 then Char.ofNat ('a'.toNat + value)
  else Char.ofNat ('0'.toNat + (value - 26))

/-- The threshold of a place, which counts in steps of 36. -/
def threshold (bias place : Nat) : Nat := max 1 (min 26 (place - bias))

theorem threshold_pos (bias place : Nat) : 0 < threshold bias place := by
  simp only [threshold]
  omega

/-- The bias that suits a number, which is first made small enough. -/
def settle (number place : Nat) : Nat :=
  if 455 < number then settle (number / 35) (place + 36)
  else place + 36 * number / (number + 38)
termination_by number
decreasing_by omega

/-- The bias after a number, which put in the last one of so many
characters. -/
def adapt (number size : Nat) (isFirst : Bool) : Nat :=
  let reduced := number / (if isFirst then 700 else 2)
  settle (reduced + reduced / size) 0

/-- A text that is being read, and the number that is being read for it. -/
structure Reading where
  text : List Char
  point : Nat := 0x80
  bias : Nat := 72
  /-- The place in the text at which the number begins to count. -/
  start : Nat := 0
  /-- The place that has been reached. -/
  position : Nat := 0
  weight : Nat := 1
  place : Nat := 36

/-- Put in the character that the number has reached. -/
def Reading.place? (reading : Reading) : Option Reading :=
  let size := reading.text.length + 1
  let point := reading.point + reading.position / size
  let position := reading.position % size
  if point.isValidChar then
    some {
      text := reading.text.insertIdx position (Char.ofNat point)
      point
      bias :=
        adapt (reading.position - reading.start) size (reading.start == 0)
      start := position + 1
      position := position + 1 }
  else none

def Reading.feed? (reading : Reading) (character : Char) :
    Option Reading := do
  let value ← digit? character
  let next :=
    { reading with position := reading.position + value * reading.weight }
  let limit := threshold reading.bias reading.place
  if value < limit then next.place?
  else
    return { next with
      weight := reading.weight * (36 - limit)
      place := reading.place + 36 }

/-- The text that is spelled, if the last number is complete. -/
def decode? (spelling : List Char) : Option (List Char) := do
  let reversed := spelling.reverse
  let digits := (reversed.takeWhile (· != '-')).reverse
  let text := (reversed.drop (digits.length + 1)).reverse
  if text.isEmpty && spelling.contains '-' then none
  else
    let reading ← digits.foldlM Reading.feed? { text }
    if reading.place = 36 then return reading.text else none

/-- The digits of a number from the given place on. -/
def digits (bias place number : Nat) : List Char :=
  let limit := threshold bias place
  if number < limit then [digit number]
  else
    digit (limit + (number - limit) % (36 - limit)) ::
      digits bias (place + 36) ((number - limit) / (36 - limit))
termination_by number
decreasing_by
  have positive := threshold_pos bias place
  have smaller :
      (number - threshold bias place) / (36 - threshold bias place) ≤
        number - threshold bias place := Nat.div_le_self _ _
  omega

/-- The digits that have been written, and the number to be written next. -/
structure Writing where
  written : List Char := []
  number : Nat := 0
  bias : Nat := 72
  /-- How many characters have been put in. -/
  size : Nat

/-- Pass a character while those with the given code point are put in. -/
def Writing.pass (basic point : Nat) (writing : Writing)
    (character : Char) : Writing :=
  if character.toNat < point then
    { writing with number := writing.number + 1 }
  else if character.toNat = point then {
    written :=
      writing.written ++ digits writing.bias 36 writing.number
    bias := adapt writing.number (writing.size + 1) (writing.size == basic)
    size := writing.size + 1 }
  else writing

/-- Put in the characters with the given code points in turn; those below
`next` are there. -/
def Writing.putAll (text : List Char) (basic : Nat) (next : Nat) :
    List Nat → Writing → Writing
  | [], writing => writing
  | point :: points, writing =>
      let skipped :=
        { writing with
          number := writing.number + (point - next) * (writing.size + 1) }
      let passed := text.foldl (Writing.pass basic point) skipped
      putAll text basic (point + 1) points
        { passed with number := passed.number + 1 }

/-- Put a number in its place among ascending ones, unless it is there. -/
def insertPoint (point : Nat) : List Nat → List Nat
  | [] => [point]
  | first :: others =>
      if point < first then point :: first :: others
      else if point = first then first :: others
      else first :: insertPoint point others

def encode (text : List Char) : List Char :=
  let isBasic (character : Char) : Bool := character.toNat < 0x80
  let basic := text.filter isBasic
  let points :=
    (text.filter (!isBasic ·)).foldr (fun character points =>
      insertPoint character.toNat points) []
  let writing :=
    Writing.putAll text basic.length 0x80 points { size := basic.length }
  basic ++ (if basic.isEmpty then [] else ['-']) ++ writing.written

end ScheduledJobs.Text.Punycode
