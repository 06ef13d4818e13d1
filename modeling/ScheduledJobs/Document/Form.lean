import ScheduledJobs.Document.Value
import ScheduledJobs.Instant.Text
import ScheduledJobs.Text.Quoted

/-!
# Reading typed values out of documents

A reader turns a document value into a value of some type. Records are read by
forms: a form names its fields in order, inspects every entry of a table in the
order of the table, and only then looks for fields that are missing.
-/

namespace ScheduledJobs.Document

/-- Why a document does not hold what is asked for. -/
inductive ReadError where
  /-- The text is not in the format. -/
  | malformed
  | missingField (name : String)
  | wrongType
  /-- A number lies outside its range. -/
  | outOfRange
  /-- A text is none of the names it can be. -/
  | unknownName
  /-- More than one way of authenticating a request is given. -/
  | conflictingAuthentication (given : List String)
  /-- The value has the right type, but makes no sense in its place. -/
  | unusable
  deriving DecidableEq

def ReadError.message : ReadError → String
  | .malformed => "malformed document"
  | .missingField name => "missing field `" ++ name ++ "`"
  | .wrongType => "invalid type"
  | .outOfRange => "invalid value: number out of range"
  | .unknownName => "unknown variant"
  | .conflictingAuthentication given =>
      "only one of `authentication_basic`, `authentication_certificate` or " ++
        "`authentication_active_directory` may be set, got " ++
        Text.Quoted.quoteList given
  | .unusable => "unusable value"

abbrev Reader (α : Type) := Value → Except ReadError α

namespace Reader

/-- A text. -/
def text : Reader String
  | .text content => .ok content
  | .unreadable => .error .malformed
  | _ => .error .wrongType

def integer : Reader Int32
  | .integer number =>
      if Int32.minValue.toInt ≤ number ∧ number ≤ Int32.maxValue.toInt then
        .ok (Int32.ofInt number)
      else
        .error .outOfRange
  | .unreadable => .error .malformed
  | _ => .error .wrongType

def instant : Reader Instant := fun value => do
  match Instant.ofText? (← text value) with
  | some instant => .ok instant
  | none => .error .unusable

/-- A list of which every item is read in the same way. -/
def list {α : Type} (item : Reader α) : Reader (List α)
  | .list items => items.mapM item
  | .unreadable => .error .malformed
  | _ => .error .wrongType

def nullable {α : Type} (read : Reader α) : Reader (Option α)
  | .null => .ok none
  | value => (read value).map some

/-- The key under which a date or time stands when a table is asked for. -/
def momentKey : String := "$__toml_private_datetime"

/-- The entries of a table; a date or time counts as a table of one entry. -/
def entries : Reader (List (String × Value))
  | .table entries => .ok entries
  | .moment content => .ok [(momentKey, .text content)]
  | .unreadable => .error .malformed
  | _ => .error .wrongType

/-- A table of which every value is a text. -/
def textTable : Reader (SortedMap String) := fun value => do
  let entries ← (← entries value).mapM fun entry => do
    return (entry.1, ← text entry.2)
  return SortedMap.ofList entries

end Reader

/-- What becomes of the items of a list beyond the fields of the record that is
read from it. -/
inductive Surplus where
  /-- The list does not hold the record. -/
  | refused
  /-- The items are passed over. -/
  | ignored
  deriving DecidableEq

/-- A way of reading a record of named fields. -/
structure Form (α : Type) where
  /-- The names of the fields in their order. -/
  keys : List String
  /-- Inspect one entry; entries with other keys are passed over. -/
  visit : String → Value → Except ReadError Unit
  /-- Build the record from the values of the fields. -/
  finish : (String → Option Value) → Except ReadError α

namespace Form

variable {α β : Type}

instance : Functor Form where
  map function form :=
    { keys := form.keys
      visit := form.visit
      finish := fun find => (form.finish find).map function }

instance : Seq Form where
  seq first second :=
    { keys := first.keys ++ (second ()).keys
      visit := fun key value => do
        first.visit key value
        (second ()).visit key value
      finish := fun find => do
        let function ← first.finish find
        let argument ← (second ()).finish find
        return function argument }

def visitField (name : String) (read : Reader α) (key : String)
    (value : Value) : Except ReadError Unit :=
  if key = name then (read value).map fun _ => () else .ok ()

def required (name : String) (read : Reader α) : Form α where
  keys := [name]
  visit := visitField name read
  finish := fun find =>
    match find name with
    | some value => read value
    | none => .error (.missingField name)

/-- A field with a value to fall back on. -/
def defaulted (name : String) (fallback : α) (read : Reader α) : Form α where
  keys := [name]
  visit := visitField name read
  finish := fun find =>
    match find name with
    | some value => read value
    | none => .ok fallback

/-- A field that may be left out or null. -/
def optional (name : String) (read : Reader α) : Form (Option α) :=
  defaulted name none (Reader.nullable read)

/-- Whether two of the entries have the same key and the form knows it. -/
def repeatsKey (form : Form α) : List (String × Value) → Bool
  | [] => false
  | (key, _) :: others =>
      (form.keys.contains key && others.any fun other => other.1 == key) ||
        repeatsKey form others

/-- Read a record from the entries of a table. -/
def ofEntries (form : Form α) (entries : List (String × Value)) :
    Except ReadError α := do
  if form.repeatsKey entries then
    throw .unusable
  entries.forM fun entry => form.visit entry.1 entry.2
  form.finish fun key => entries.lookup key

/-- Read a record from a list of the values of its first fields. -/
def ofItems (surplus : Surplus) (form : Form α) (items : List Value) :
    Except ReadError α := do
  let entries := form.keys.zip items
  entries.forM fun entry => form.visit entry.1 entry.2
  match form.finish fun key => entries.lookup key with
  | .ok record =>
      if surplus = .refused ∧ form.keys.length < items.length then
        throw .unusable
      else return record
  | .error (.missingField _) => throw .unusable
  | .error error => throw error

/-- Read a record from a table or from a list of its values. -/
def readWith (surplus : Surplus) (form : Form α) : Reader α
  | .list items => form.ofItems surplus items
  | value => do form.ofEntries (← Reader.entries value)

/-- Read a record from a table or from a list of exactly its values. -/
def read (form : Form α) : Reader α := form.readWith .refused

end Form

end ScheduledJobs.Document
