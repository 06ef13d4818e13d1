import ScheduledJobs.Loading
import ScheduledJobs.Settings.Basic
import ScheduledJobs.Text.Utf8

/-!
# Where settings and records are kept

The environment variables tell in which directories the program keeps its
files. When there is no file of settings, one with the standard settings is
written.
-/

namespace ScheduledJobs

def programName : String := "jobsync"

/-- The directories of the program. -/
structure Locations where
  configuration : String
  data : String
  deriving DecidableEq, Inhabited

namespace Locations

/-- The directory that a variable names, or one below the home directory. -/
def choose? (named home? : Option String) (belowHome : String) :
    Option String :=
  match named.filter Path.isAbsolute with
  | some directory => some directory
  | none => home?.map fun home => Path.join home belowHome

/-- The directories that the values of the environment variables give. -/
def ofVariables? (values : SortedMap String) : Option Locations := do
  let home? := (values.get? "HOME").filter fun home => !home.isEmpty
  let configuration ←
    choose? (values.get? "XDG_CONFIG_HOME") home? ".config"
  let data ← choose? (values.get? "XDG_DATA_HOME") home? ".local/share"
  return {
    configuration := Path.join configuration programName
    data := Path.join data programName }

def settingsFile (locations : Locations) : String :=
  Path.join locations.configuration "config.toml"

def stateDirectory (locations : Locations) (settings : Settings) : String :=
  Path.join locations.data settings.stateDirectory

end Locations

namespace Settings

def load (locations : Locations) (files : FileTree) :
    Except LoadFailure Settings :=
  files.load read "/" locations.settingsFile

/-- Whether there is something under the name of the file of settings. -/
def areGiven (locations : Locations) (files : FileTree) : Bool :=
  match files.read "/" locations.settingsFile with
  | .ok _ => true
  | .error error => error == .directory

def writeStandard (locations : Locations) (files : FileTree) :
    Except FileError FileTree :=
  files.write "/" locations.settingsFile (Text.Utf8.encode standardText)

end Settings

end ScheduledJobs
