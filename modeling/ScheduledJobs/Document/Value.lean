import ScheduledJobs.SortedMap

/-!
# Document values

What a document in one of the structured formats holds: atoms, lists and tables
whose entries keep their order.
-/

namespace ScheduledJobs.Document

/-- A value of a structured document. -/
inductive Value where
  | null
  | boolean (flag : Bool)
  | integer (number : Int)
  /-- The number `digits * 10 ^ scale`, below zero when `negative`. -/
  | fraction (negative : Bool) (digits : Nat) (scale : Int)
  | text (content : String)
  /-- A date or a time that the format itself knows, as written. -/
  | moment (content : String)
  | list (items : List Value)
  | table (entries : List (String × Value))
  /-- A well-formed part that denotes no value: it can be passed over, but not
  read. -/
  | unreadable
  deriving Inhabited

namespace Value

mutual

def isReadable : Value → Bool
  | .unreadable => false
  | .list items => areReadable items
  | .table entries => haveReadableValues entries
  | _ => true

def areReadable : List Value → Bool
  | [] => true
  | first :: others => first.isReadable && areReadable others

/-- Whether no part of the values of the entries is unreadable. -/
def haveReadableValues : List (String × Value) → Bool
  | [] => true
  | (_, value) :: others => value.isReadable && haveReadableValues others

end

mutual

/-- The value with the keys of every table in ascending order; of several
entries with one key the last one counts. -/
def ordered : Value → Value
  | .list items => .list (orderedItems items)
  | .table entries =>
      .table (SortedMap.ofList (orderedEntries entries)).entries
  | other => other

/-- The values with ordered tables. -/
def orderedItems : List Value → List Value
  | [] => []
  | first :: others => first.ordered :: orderedItems others

/-- The entries with ordered tables as values. -/
def orderedEntries : List (String × Value) → List (String × Value)
  | [] => []
  | (key, value) :: others => (key, value.ordered) :: orderedEntries others

end

/-- The value of the first entry with the key, in a table. -/
def get? : Value → String → Option Value
  | .table entries, key => entries.lookup key
  | _, _ => none

/-- A table without the entries whose value is missing. -/
def ofFields (fields : List (String × Option Value)) : Value :=
  .table (fields.filterMap fun field =>
    field.2.map fun value => (field.1, value))

end Value

end ScheduledJobs.Document
