import ScheduledJobs.Document.Value
import ScheduledJobs.Text.Decimal
import ScheduledJobs.Text.Hexadecimal

/-!
# Writing JSON

Values are written without any blanks, or on indented lines with one item or
entry each.
-/

namespace ScheduledJobs.Document.Json

open Text

/-- The characters that stand for one character inside a JSON string. -/
def escape (character : Char) : List Char :=
  match character with
  | '"' => ['\\', '"']
  | '\\' => ['\\', '\\']
  | '\n' => ['\\', 'n']
  | '\r' => ['\\', 'r']
  | '\t' => ['\\', 't']
  | '\x08' => ['\\', 'b']
  | '\x0c' => ['\\', 'f']
  | other =>
      if other.toNat < 0x20 then
        '\\' :: 'u' :: Hexadecimal.padded 4 other.toNat
      else
        [other]

def textCharacters (content : String) : List Char :=
  '"' :: (content.toList.flatMap escape ++ ['"'])

/-- A number with a fraction: positional while the point is within the first
sixteen digits or at most four zeros in front of them, and otherwise with an
exponent. -/
def fractionCharacters (negative : Bool) (digits : Nat) (scale : Int) :
    List Char :=
  let numeral := Decimal.natural digits
  let point : Int := numeral.length + scale
  let magnitude :=
    if digits = 0 then
      ['0', '.', '0']
    else if 0 ≤ scale ∧ point ≤ 16 then
      numeral ++ List.replicate scale.toNat '0' ++ ['.', '0']
    else if 0 < point ∧ point ≤ 16 then
      numeral.take point.toNat ++ '.' :: numeral.drop point.toNat
    else if -5 < point ∧ point ≤ 0 then
      '0' :: '.' :: List.replicate (-point).toNat '0' ++ numeral
    else
      let leading := numeral.take 1
      let following := numeral.drop 1
      let mark := if 0 < point then ['e', '+'] else ['e']
      leading ++ (if following.isEmpty then [] else '.' :: following) ++
        mark ++ Decimal.integer (point - 1)
  if negative then '-' :: magnitude else magnitude

mutual

/-- A value without blanks. -/
def characters : Value → List Char
  | .null => ['n', 'u', 'l', 'l']
  | .boolean true => ['t', 'r', 'u', 'e']
  | .boolean false => ['f', 'a', 'l', 's', 'e']
  | .integer number => Decimal.integer number
  | .fraction negative digits scale => fractionCharacters negative digits scale
  | .text content => textCharacters content
  | .moment content => textCharacters content
  | .list [] => ['[', ']']
  | .list (first :: others) =>
      '[' :: (characters first ++ itemCharacters others ++ [']'])
  | .table [] => ['\x7b', '\x7d']
  | .table ((key, value) :: others) =>
      '\x7b' :: (textCharacters key ++ ':' :: characters value ++
        entryCharacters others ++ ['\x7d'])
  | .unreadable => ['n', 'u', 'l', 'l']

/-- The items of a list after the first one, each after a comma. -/
def itemCharacters : List Value → List Char
  | [] => []
  | first :: others => ',' :: (characters first ++ itemCharacters others)

/-- The entries of a table after the first one, each after a comma. -/
def entryCharacters : List (String × Value) → List Char
  | [] => []
  | (key, value) :: others =>
      ',' :: (textCharacters key ++ ':' :: characters value ++
        entryCharacters others)

end

/-- The JSON text of a value, without blanks. -/
def render (value : Value) : String := String.ofList (characters value)

/-- A line break and two blanks for each level. -/
def lineBreak (level : Nat) : List Char :=
  '\n' :: List.replicate (2 * level) ' '

mutual

def indented (level : Nat) : Value → List Char
  | .list (first :: others) =>
      '[' :: (lineBreak (level + 1) ++ indented (level + 1) first ++
        indentedItems (level + 1) others ++ lineBreak level ++ [']'])
  | .table ((key, value) :: others) =>
      '\x7b' :: (lineBreak (level + 1) ++ textCharacters key ++
        ':' :: ' ' :: indented (level + 1) value ++
        indentedEntries (level + 1) others ++ lineBreak level ++ ['\x7d'])
  | other => characters other

/-- The items of a list after the first one, each on a line of its own. -/
def indentedItems (level : Nat) : List Value → List Char
  | [] => []
  | first :: others =>
      ',' :: (lineBreak level ++ indented level first ++
        indentedItems level others)

/-- The entries of a table after the first one, each on a line of its own. -/
def indentedEntries (level : Nat) : List (String × Value) → List Char
  | [] => []
  | (key, value) :: others =>
      ',' :: (lineBreak level ++ textCharacters key ++
        ':' :: ' ' :: indented level value ++ indentedEntries level others)

end

/-- The JSON text of a value on indented lines. -/
def renderIndented (value : Value) : String :=
  String.ofList (indented 0 value)

end ScheduledJobs.Document.Json
