import ScheduledJobs.Document.Number
import ScheduledJobs.Text.Hexadecimal
import ScheduledJobs.Text.Utf8

/-!
# Reading JSON

A reader takes the octets of a value and gives the value together with the
octets that follow. What is well-formed but denotes no value, such as half of a
surrogate pair, octets in a string that spell no text, or nesting beyond the
limit, becomes an unreadable part.
-/

namespace ScheduledJobs.Document.Json

open Text

namespace Octet

@[match_pattern] abbrev quote : UInt8 := 0x22
@[match_pattern] abbrev plus : UInt8 := 0x2B
@[match_pattern] abbrev comma : UInt8 := 0x2C
@[match_pattern] abbrev minus : UInt8 := 0x2D
@[match_pattern] abbrev point : UInt8 := 0x2E
@[match_pattern] abbrev slash : UInt8 := 0x2F
@[match_pattern] abbrev zero : UInt8 := 0x30
@[match_pattern] abbrev colon : UInt8 := 0x3A
@[match_pattern] abbrev capitalE : UInt8 := 0x45
@[match_pattern] abbrev openBracket : UInt8 := 0x5B
@[match_pattern] abbrev backslash : UInt8 := 0x5C
@[match_pattern] abbrev closeBracket : UInt8 := 0x5D
@[match_pattern] abbrev smallB : UInt8 := 0x62
@[match_pattern] abbrev smallE : UInt8 := 0x65
@[match_pattern] abbrev smallF : UInt8 := 0x66
@[match_pattern] abbrev smallN : UInt8 := 0x6E
@[match_pattern] abbrev smallR : UInt8 := 0x72
@[match_pattern] abbrev smallT : UInt8 := 0x74
@[match_pattern] abbrev smallU : UInt8 := 0x75
@[match_pattern] abbrev openBrace : UInt8 := 0x7B
@[match_pattern] abbrev closeBrace : UInt8 := 0x7D

/-- The ASCII character of an octet. -/
def character (octet : UInt8) : Char := Char.ofNat octet.toNat

def isDigit (octet : UInt8) : Bool := (character octet).isDigit

/-- Whether the octet is a blank that may stand between tokens. -/
def isBlank (octet : UInt8) : Bool :=
  octet == 0x20 || octet == 0x0A || octet == 0x09 || octet == 0x0D

end Octet

/-- Pass over the blanks that may stand between tokens. -/
def skipBlanks (rest : List UInt8) : List UInt8 := rest.dropWhile Octet.isBlank

/-- What follows a word that stands at the front. -/
def after? (word : String) (rest : List UInt8) : Option (List UInt8) :=
  let octets := Utf8.encode word
  if octets.isPrefixOf rest then some (rest.drop octets.length) else none

/-- The octet that a letter after a backslash stands for. -/
def shortEscape? : UInt8 → Option UInt8
  | Octet.quote => some Octet.quote
  | Octet.backslash => some Octet.backslash
  | Octet.slash => some Octet.slash
  | Octet.smallB => some 0x08
  | Octet.smallF => some 0x0C
  | Octet.smallN => some 0x0A
  | Octet.smallR => some 0x0D
  | Octet.smallT => some 0x09
  | _ => none

def fourDigits? (first second third fourth : UInt8) : Option Nat := do
  let first ← Hexadecimal.digit? (Octet.character first)
  let second ← Hexadecimal.digit? (Octet.character second)
  let third ← Hexadecimal.digit? (Octet.character third)
  let fourth ← Hexadecimal.digit? (Octet.character fourth)
  return ((first * 16 + second) * 16 + third) * 16 + fourth

def isHighSurrogate (unit : Nat) : Bool := 0xD800 ≤ unit && unit ≤ 0xDBFF

def isLowSurrogate (unit : Nat) : Bool := 0xDC00 ≤ unit && unit ≤ 0xDFFF

def pairedSurrogates (high low : Nat) : Char :=
  Char.ofNat ((high - 0xD800) * 0x400 + (low - 0xDC00) + 0x10000)

/-- An octet of a string, or a 16-bit unit given by its number. -/
inductive Piece where
  | plain (octet : UInt8)
  | unit (number : Nat)

/-- The inside of a string up to the closing quote, and what follows. -/
def pieces? : List UInt8 → Option (List Piece × List UInt8)
  | [] => none
  | Octet.quote :: rest => some ([], rest)
  | Octet.backslash :: Octet.smallU ::
        first :: second :: third :: fourth :: rest => do
      let number ← fourDigits? first second third fourth
      let (others, after) ← pieces? rest
      return (.unit number :: others, after)
  | Octet.backslash :: letter :: rest => do
      let octet ← shortEscape? letter
      let (others, after) ← pieces? rest
      return (.plain octet :: others, after)
  | octet :: rest =>
      if octet < 0x20 then
        none
      else do
        let (others, after) ← pieces? rest
        return (.plain octet :: others, after)

def octetsOf (character : Char) : List UInt8 :=
  Utf8.encode (String.singleton character)

/-- The octets of a string, unless half of a surrogate pair is missing. -/
def joined? : List Piece → Option (List UInt8)
  | [] => some []
  | .plain octet :: others => (joined? others).map (octet :: ·)
  | .unit number :: others =>
      if isHighSurrogate number then
        match others with
        | .unit low :: after =>
            if isLowSurrogate low then
              (joined? after).map (octetsOf (pairedSurrogates number low) ++ ·)
            else
              none
        | _ => none
      else if isLowSurrogate number then
        none
      else
        (joined? others).map (octetsOf (Char.ofNat number) ++ ·)

/-- The text of a string, or nothing when it denotes none, and what follows
the closing quote. -/
def text? (rest : List UInt8) : Option (Option String × List UInt8) :=
  (pieces? rest).map fun (pieces, after) =>
    ((joined? pieces).bind Utf8.decode?, after)

def digits (rest : List UInt8) : List Char × List UInt8 :=
  ((rest.takeWhile Octet.isDigit).map Octet.character,
    rest.dropWhile Octet.isDigit)

/-- The digits of a number before its point: a zero, or digits of which the
first is not zero. -/
def wholeDigits? (rest : List UInt8) : Option (List Char × List UInt8) :=
  match digits rest with
  | ([], _) => none
  | ('0' :: _ :: _, _) => none
  | found => some found

/-- The digits after a point, if there is one. -/
def pointDigits? : List UInt8 → Option (List Char × List UInt8)
  | Octet.point :: rest =>
      match digits rest with
      | ([], _) => none
      | found => some found
  | rest => some ([], rest)

def exponentDigits? (rest : List UInt8) : Option (Int × List UInt8) :=
  match rest with
  | Octet.minus :: after =>
      (signed after).map fun (size, rest) => (-size, rest)
  | Octet.plus :: after => signed after
  | after => signed after
where
  signed (rest : List UInt8) : Option (Int × List UInt8) :=
    match digits rest with
    | ([], _) => none
    | (found, after) => some (Decimal.value found, after)

/-- The exponent, if there is one. -/
def exponent? : List UInt8 → Option (Option Int × List UInt8)
  | Octet.smallE :: rest | Octet.capitalE :: rest =>
      (exponentDigits? rest).map fun (exponent, after) =>
        (some exponent, after)
  | rest => some (none, rest)

/-- A whole number; one that needs more than 64 bits is a fraction, and so is
a zero with a sign. -/
def whole (negative : Bool) (numeral : List Char) : Value :=
  let number := Decimal.value numeral
  if negative then
    if number = 0 ∨ UInt64.size / 2 < number then .ofNumeral true numeral [] 0
    else .integer (-number)
  else if number < UInt64.size then .integer number
  else .ofNumeral false numeral [] 0

/-- A number without its sign. -/
def unsigned? (negative : Bool) (rest : List UInt8) :
    Option (Value × List UInt8) := do
  let (wholePart, rest) ← wholeDigits? rest
  let (pointPart, rest) ← pointDigits? rest
  let (exponent, rest) ← exponent? rest
  if pointPart.isEmpty && exponent.isNone then
    return (whole negative wholePart, rest)
  else
    return (.ofNumeral negative wholePart pointPart (exponent.getD 0), rest)

def number? : List UInt8 → Option (Value × List UInt8)
  | Octet.minus :: rest => unsigned? true rest
  | rest => unsigned? false rest

/-- The items of a list up to the closing bracket, at most `fuel` of them. -/
def items? (item? : List UInt8 → Option (Value × List UInt8)) :
    (fuel : Nat) → List UInt8 → Option (List Value × List UInt8)
  | 0, _ => none
  | fuel + 1, rest => do
      let (first, rest) ← item? rest
      match skipBlanks rest with
      | Octet.comma :: rest =>
          let (others, rest) ← items? item? fuel rest
          return (first :: others, rest)
      | Octet.closeBracket :: rest => return ([first], rest)
      | _ => none

/-- One entry of a table; its key may denote no text. -/
def entry? (item? : List UInt8 → Option (Value × List UInt8))
    (rest : List UInt8) :
    Option ((Option String × Value) × List UInt8) := do
  match skipBlanks rest with
  | Octet.quote :: rest =>
      let (key, rest) ← text? rest
      match skipBlanks rest with
      | Octet.colon :: rest =>
          let (value, rest) ← item? rest
          return ((key, value), rest)
      | _ => none
  | _ => none

/-- The entries of a table up to the closing brace, at most `fuel` of them. -/
def entries? (item? : List UInt8 → Option (Value × List UInt8)) :
    (fuel : Nat) → List UInt8 →
      Option (List (Option String × Value) × List UInt8)
  | 0, _ => none
  | fuel + 1, rest => do
      let (first, rest) ← entry? item? rest
      match skipBlanks rest with
      | Octet.comma :: rest =>
          let (others, rest) ← entries? item? fuel rest
          return (first :: others, rest)
      | Octet.closeBrace :: rest => return ([first], rest)
      | _ => none

/-- A table, if every key denotes a text. -/
def tableOf (entries : List (Option String × Value)) : Value :=
  if entries.all fun entry => entry.1.isSome then
    .table (entries.filterMap fun (key, value) =>
      key.map fun key => (key, value))
  else
    .unreadable

/-- A list or table when there is `room` for another level. -/
def nested (room : Nat) (value : Value) : Value :=
  if room = 0 then .unreadable else value

/-- A number or one of the words for a value. -/
def atom? (rest : List UInt8) : Option (Value × List UInt8) :=
  (after? "null" rest).map (.null, ·) <|>
    (after? "true" rest).map (.boolean true, ·) <|>
    (after? "false" rest).map (.boolean false, ·) <|> number? rest

/-- A value with at most `fuel` levels, of which `room` levels of lists and
tables are readable. -/
def value? : (fuel room : Nat) → List UInt8 → Option (Value × List UInt8)
  | 0, _, _ => none
  | fuel + 1, room, rest =>
      match skipBlanks rest with
      | Octet.quote :: rest =>
          (text? rest).map fun (content, rest) =>
            (content.elim .unreadable .text, rest)
      | Octet.openBracket :: rest =>
          match skipBlanks rest with
          | Octet.closeBracket :: rest => some (nested room (.list []), rest)
          | inside =>
              (items? (value? fuel (room - 1)) inside.length inside).map
                fun (items, rest) => (nested room (.list items), rest)
      | Octet.openBrace :: rest =>
          match skipBlanks rest with
          | Octet.closeBrace :: rest => some (nested room (.table []), rest)
          | inside =>
              (entries? (value? fuel (room - 1)) inside.length inside).map
                fun (entries, rest) => (nested room (tableOf entries), rest)
      | rest => atom? rest

/-- Levels of lists and tables that can be read. -/
def depthLimit : Nat := 127

/-- The value that the octets of a JSON text denote. -/
def ofOctets? (octets : List UInt8) : Option Value := do
  let (value, rest) ← value? (octets.length + 1) depthLimit octets
  if (skipBlanks rest).isEmpty then some value else none

def parse? (text : String) : Option Value := ofOctets? (Utf8.encode text)

end ScheduledJobs.Document.Json
