import ScheduledJobs.Document.Value

/-!
# Building the tables of a TOML document

Tables come into being in three ways: under a header, as a parent of a table
under a header, and as the path of a key with points. Which of them may be
extended later, and by what, depends on how they came into being.
-/

namespace ScheduledJobs.Document.Toml

/-- How a table has come into being. -/
inductive Origin where
  /-- A header names the table. -/
  | header
  /-- A header names a table inside of it. -/
  | parent
  /-- It is on the path of a key with points. -/
  | path
  deriving DecidableEq

/-- A table under construction holds values, tables and lists of tables. -/
inductive Node where
  | value (value : Value)
  | table (origin : Origin) (entries : List (String × Node))
  | tables (tables : List (List (String × Node)))

abbrev Entries := List (String × Node)

namespace Node

mutual

def toValue : Node → Value
  | .value finished => finished
  | .table _ entries => .table (entriesToValues entries)
  | .tables items => .list (tablesToValues items)

/-- The finished values of the entries of a table. -/
def entriesToValues : List (String × Node) → List (String × Value)
  | [] => []
  | (key, node) :: others => (key, node.toValue) :: entriesToValues others

def tablesToValues : List (List (String × Node)) → List Value
  | [] => []
  | first :: others => .table (entriesToValues first) :: tablesToValues others

end

end Node

namespace Entries

/-- Put a node in the place of the entry with the key, or at the end. -/
def replace (key : String) (node : Node) : Entries → Entries
  | [] => [(key, node)]
  | entry :: others =>
      if entry.1 = key then (key, node) :: others
      else entry :: replace key node others

/-- The entries without the one with the key. -/
def remove (key : String) (entries : Entries) : Entries :=
  entries.filter fun entry => entry.1 != key

/-- Change the table at the end of a path, and create the tables of the path
that do not exist. A path of a key may not lead into a table under a header,
while a path of a header may lead into any table and into the last table of a
list. `change` is told whether the table has come into being by a key. -/
def changeAt (ofKey : Bool) (change : Bool → Entries → Option Entries) :
    (byKey : Bool) → (path : List String) → Entries → Option Entries
  | byKey, [], entries => change byKey entries
  | _, key :: path, entries =>
      match entries.lookup key with
      | none => do
          let inside ← changeAt ofKey change ofKey path []
          let origin := if ofKey then Origin.path else Origin.parent
          return entries ++ [(key, .table origin inside)]
      | some (.value _) => none
      | some (.table origin inside) =>
          if ofKey ∧ origin = .header then none
          else do
            let inside ← changeAt ofKey change (origin = .path) path inside
            return replace key (.table origin inside) entries
      | some (.tables tables) => do
          let last ← tables.getLast?
          let last ← changeAt ofKey change false path last
          return replace key (.tables (tables.dropLast ++ [last])) entries

/-- Add an entry at the end of the path of its key. The path has to end at a
table that keys have created, and the name has to be new there. -/
def insert? (path : List String) (name : String) (value : Value)
    (entries : Entries) : Option Entries :=
  changeAt true (fun byKey inside =>
    if byKey = path.isEmpty then none
    else if (inside.lookup name).isSome then none
    else some (inside ++ [(name, .value value)])) false path entries

/-- The value of an inline table with the given keys and values. -/
def ofPairs? (pairs : List ((List String × String) × Value)) :
    Option Value := do
  let entries ← pairs.foldlM
    (fun entries pair => insert? pair.1.1 pair.1.2 pair.2 entries) []
  return .table (Node.entriesToValues entries)

end Entries

/-- A document under construction: the finished tables, and the table to which
keys are being added. -/
structure Draft where
  root : Entries := []
  /-- The path and the name of the current table, and whether it is one of a
  list; the root has none. -/
  header : Option (List String × String × Bool) := none
  current : Entries := []

namespace Draft

def close? (draft : Draft) : Option Entries :=
  match draft.header with
  | none => some draft.current
  | some (path, name, true) =>
      Entries.changeAt false (fun _ inside =>
        match inside.lookup name with
        | none => some (inside ++ [(name, .tables [draft.current])])
        | some (.tables tables) =>
            some (Entries.replace name (.tables (tables ++ [draft.current]))
              inside)
        | some _ => none) false path draft.root
  | some (path, name, false) =>
      Entries.changeAt false (fun _ inside =>
        match inside.lookup name with
        | none => some (inside ++ [(name, .table .header draft.current)])
        | some _ => none) false path draft.root

/-- The entries that a table has before its header: those of a table that
stands there as a parent only. -/
def inherited? (name : String) (entries : Entries) : Option Entries :=
  match entries.lookup name with
  | none => some []
  | some (.table .parent inside) => some inside
  | some _ => none

/-- The table at the end of the path of a header. -/
def tableAt? : (path : List String) → Entries → Option Entries
  | [], entries => some entries
  | key :: path, entries =>
      match entries.lookup key with
      | none => tableAt? path []
      | some (.value _) => none
      | some (.table _ inside) => tableAt? path inside
      | some (.tables tables) => tables.getLast?.bind (tableAt? path)

def openTable? (draft : Draft) (path : List String) (name : String) :
    Option Draft := do
  let root ← draft.close?
  let current ← inherited? name (← tableAt? path root)
  let root ← Entries.changeAt false
    (fun _ inside => some (Entries.remove name inside)) false path root
  return { root, header := some (path, name, false), current }

/-- Begin one more table of a list of tables. -/
def openItem? (draft : Draft) (path : List String) (name : String) :
    Option Draft := do
  let root ← draft.close?
  let root ← Entries.changeAt false (fun _ inside =>
    match inside.lookup name with
    | none => some (inside ++ [(name, .tables [])])
    | some (.tables _) => some inside
    | some _ => none) false path root
  return { root, header := some (path, name, true), current := [] }

def insert? (draft : Draft) (path : List String) (name : String)
    (value : Value) : Option Draft := do
  return { draft with current := ← draft.current.insert? path name value }

end Draft

end ScheduledJobs.Document.Toml
