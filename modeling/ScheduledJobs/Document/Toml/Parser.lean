import ScheduledJobs.Document.Toml.Scalar
import ScheduledJobs.Document.Toml.Tree

/-!
# Reading TOML

A document is a sequence of lines, each of which holds a header, a key with its
value, or neither.
-/

namespace ScheduledJobs.Document.Toml

/-- The items of a list up to the closing bracket, at most `fuel` of them. -/
def items? (item? : List Char → Option (Value × List Char)) :
    (fuel : Nat) → List Char → Option (List Value × List Char)
  | 0, _ => none
  | fuel + 1, rest =>
      match skipTrivia rest with
      | ']' :: rest => some ([], rest)
      | rest => do
          let (first, rest) ← item? rest
          match skipTrivia rest with
          | ',' :: rest =>
              let (others, rest) ← items? item? fuel rest
              return (first :: others, rest)
          | ']' :: rest => return ([first], rest)
          | _ => none

def pair? (item? : List Char → Option (Value × List Char))
    (rest : List Char) :
    Option (((List String × String) × Value) × List Char) := do
  let (key, rest) ← key? rest
  let (value, rest) ← item? (skipSpace (← expect? '=' rest))
  return ((key, value), rest)

/-- The keys and values of an inline table up to the closing brace, at most
`fuel` of them. -/
def pairs? (item? : List Char → Option (Value × List Char)) :
    (fuel : Nat) → List Char →
      Option (List ((List String × String) × Value) × List Char)
  | 0, _ => none
  | fuel + 1, rest => do
      let (first, rest) ← pair? item? rest
      match skipSpace rest with
      | ',' :: rest =>
          let (others, rest) ← pairs? item? fuel rest
          return (first :: others, rest)
      | '\x7d' :: rest => return ([first], rest)
      | _ => none

/-- A value in which lists and inline tables are nested at most `room` levels
deep. -/
def value? : (room : Nat) → List Char → Option (Value × List Char)
  | 0, rest => scalar? rest
  | room + 1, rest =>
      match rest with
      | '[' :: inside =>
          (items? (value? room) (inside.length + 1) inside).map
            fun (items, rest) => (.list items, rest)
      | '\x7b' :: inside =>
          match skipSpace inside with
          | '\x7d' :: rest => some (.table [], rest)
          | _ => do
              let (pairs, rest) ← pairs? (value? room) inside.length inside
              return (← Entries.ofPairs? pairs, rest)
      | rest => scalar? rest

/-- Levels to which lists and inline tables may be nested. -/
def depthLimit : Nat := 79

/-- What follows the rest of a line that holds nothing more than a comment. -/
def restOfLine? (rest : List Char) : Option (List Char) :=
  match skipComment (skipSpace rest) with
  | [] => some []
  | after => lineEnd? after

/-- The header of a table or of one more table of a list. -/
def header? (draft : Draft) (rest : List Char) :
    Option (Draft × List Char) :=
  match rest with
  | '[' :: rest => do
      let ((path, name), rest) ← key? rest
      let rest ← expect? ']' (← expect? ']' rest)
      return (← draft.openItem? path name, rest)
  | rest => do
      let ((path, name), rest) ← key? rest
      let rest ← expect? ']' rest
      return (← draft.openTable? path name, rest)

def statement? (draft : Draft) (rest : List Char) :
    Option (Draft × List Char) :=
  match rest with
  | '[' :: rest => header? draft rest
  | rest => do
      let (((path, name), value), rest) ← pair? (value? depthLimit) rest
      return (← draft.insert? path name value, rest)

/-- Read lines, at most `fuel` of them. -/
def lines? : (fuel : Nat) → Draft → List Char → Option Draft
  | 0, _, _ => none
  | fuel + 1, draft, rest =>
      match skipSpace rest with
      | [] => some draft
      | '#' :: rest => do lines? fuel draft (← restOfLine? ('#' :: rest))
      | rest =>
          match lineEnd? rest with
          | some next => lines? fuel draft next
          | none => do
              let (draft, rest) ← statement? draft rest
              lines? fuel draft (← restOfLine? rest)

/-- The value that the characters of a document denote. -/
def ofCharacters? (characters : List Char) : Option Value := do
  let text :=
    match characters with
    | '\uFEFF' :: rest => rest
    | rest => rest
  let draft ← lines? (text.length + 1) {} text
  return .table (Node.entriesToValues (← draft.close?))

def parse? (text : String) : Option Value := ofCharacters? text.toList

end ScheduledJobs.Document.Toml
