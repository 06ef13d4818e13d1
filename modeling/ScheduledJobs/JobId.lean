import ScheduledJobs.Text.Caseless
import ScheduledJobs.Text.Quoted
import ScheduledJobs.Text.Segments

/-!
# Resource ids of jobs

The id of a job is a path of keys and values in turn. Reading looks the keys up
without regard to case and order, and takes the first of several equal keys.
-/

namespace ScheduledJobs

open Text

/-- What identifies a job of the service. -/
structure JobId where
  subscription : String
  resourceGroup : String
  collection : String
  name : String
  deriving DecidableEq, Inhabited

namespace JobId

/-- Why a text is not the id of a job. -/
inductive Error where
  /-- The text is not a path of keys and values. -/
  | malformed (id : String)
  /-- A key is missing. -/
  | missing (id key : String)
  deriving DecidableEq

def Error.message : Error → String
  | .malformed id =>
      "resource id " ++ Quoted.quote id ++
        " is not a sequence of key/value path segments"
  | .missing id key =>
      "resource id " ++ Quoted.quote id ++ " is missing the " ++
        Quoted.quote key ++ " segment"

/-- The written form of an id. -/
def text (id : JobId) : String :=
  "/subscriptions/" ++ id.subscription ++ "/resourceGroups/" ++
    id.resourceGroup ++ "/providers/Microsoft.Scheduler/jobCollections/" ++
    id.collection ++ "/jobs/" ++ id.name

/-- Segments in pairs of a key and a value. -/
def pairs? : List (List Char) → Option (List (List Char × List Char))
  | [] => some []
  | [_] => none
  | key :: value :: others =>
      if key.isEmpty || value.isEmpty then none
      else (pairs? others).map ((key, value) :: ·)

def pathPairs? (id : String) : Option (List (List Char × List Char)) :=
  match id.toList with
  | '/' :: path => pairs? (segments '/' (trimEnd '/' path))
  | _ => none

/-- The value after the first key that agrees with the given one. -/
def lookup (id : String) (pairs : List (List Char × List Char))
    (key : String) : Except Error String :=
  match pairs.find? fun pair => foldCase pair.1 == foldCase key.toList with
  | some (_, value) => .ok (String.ofList value)
  | none => .error (.missing id key)

def ofText (id : String) : Except Error JobId :=
  match pathPairs? id with
  | none => .error (.malformed id)
  | some pairs => do
      let subscription ← lookup id pairs "subscriptions"
      let resourceGroup ← lookup id pairs "resourceGroups"
      let collection ← lookup id pairs "jobCollections"
      let name ← lookup id pairs "jobs"
      return { subscription, resourceGroup, collection, name }

end JobId

end ScheduledJobs
