import ScheduledJobs.Environment

/-!
# Settings

What a user sets once for all jobs: how much is logged, where the records are
kept, and which service the jobs are sent to.
-/

namespace ScheduledJobs

open Document

/-- The kind of service that jobs are sent to. -/
inductive Backend where
  | resourceManager
  | emulator
  deriving DecidableEq, Inhabited

namespace Backend

def name : Backend → String
  | .resourceManager => "arm"
  | .emulator => "local"

def ofName? (name : String) : Option Backend :=
  [resourceManager, emulator].find? fun backend => backend.name == name

@[simp] theorem ofName?_name (backend : Backend) :
    ofName? backend.name = some backend := by
  cases backend <;> decide

def readName (name : String) : Except ReadError Backend :=
  match ofName? name with
  | some backend => .ok backend
  | none => .error .unknownName

/-- Read a kind of service: its name, or its name as the only key of a table
with nothing under it. -/
def read : Reader Backend
  | .text name => readName name
  | .table [(name, content)] => do
      let backend ← readName name
      match content with
      | .table [] | .list [] => return backend
      | _ => throw .unusable
  | .unreadable => .error .malformed
  | _ => .error .unusable

end Backend

/-- The settings of a user. -/
structure Settings where
  logLevel : String
  /-- Where the records are kept. -/
  stateDirectory : String := "state"
  backend : Backend := .resourceManager
  /-- The subscription that jobs are created in. -/
  subscription : String := ""
  environment : Environment := {}
  deriving DecidableEq, Inhabited

namespace Settings

def form : Form Settings :=
  mk <$> .required "log_level" Reader.text <*>
    .defaulted "state_dir" "state" Reader.text <*>
    .defaulted "backend" .resourceManager Backend.read <*>
    .defaulted "subscription_id" "" Reader.text <*>
    .defaulted "environment" {} (Environment.form.readWith .ignored)

def read : Reader Settings := form.read

/-- The settings of a user who has set nothing. -/
def standard : Settings := { logLevel := "info" }

def standardText : String :=
  "log_level = \"info\"\n" ++
  "state_dir = \"state\"\n" ++
  "backend = \"arm\"\n" ++
  "subscription_id = \"\"\n" ++
  "\n" ++
  "[environment]\n" ++
  "service_management_endpoint = " ++
    "\"https://management.core.windows.net/\"\n" ++
  "resource_manager_endpoint = \"https://management.azure.com/\"\n" ++
  "api_version = \"2016-03-01\"\n" ++
  "token_env = \"ARM_ACCESS_TOKEN\"\n"

end Settings

end ScheduledJobs
