import ScheduledJobs.CommandLine.Arguments
import ScheduledJobs.CommandLine.Session

/-!
# Runs of the program

A run takes arguments and finds files, environment variables and clocks. It
leaves a report and the files as they are afterwards.
-/

namespace ScheduledJobs.CommandLine

/-- What a run finds. -/
structure Surroundings extends Times where
  /-- The directory in which relative paths start. -/
  workingDirectory : String
  variableValues : SortedMap String

/-- What a run shows. -/
structure Report where
  exitCode : Nat
  output : String := ""
  errors : String := ""
  deriving DecidableEq

namespace Report

/-- The report of a request that has an answer or fails. -/
def ofResult : Except Failure String → Report
  | .ok output => { exitCode := 0, output }
  | .error failure => { exitCode := 1, errors := failure.report }

/-- The report when the arguments make no sense. -/
def misused : Report := { exitCode := 2, errors := usage }

end Report

def version : String := "0.1.0"

/-- The settings, which are written first if there are none. -/
def findSettings (locations : Locations) (files : FileTree) :
    Except Failure Settings × FileTree :=
  match files.createDirectory "/" locations.configuration with
  | (.error error, files) =>
      (.error (.noConfiguration locations.configuration error), files)
  | (.ok (), files) =>
      if Settings.areGiven locations files then
        ((Settings.load locations files).mapError .loading, files)
      else
        match Settings.writeStandard locations files with
        | .ok written => (.ok .standard, written)
        | .error error =>
            (.error (.unwritable locations.settingsFile error), files)

/-- Run something on the store with the given root, which is created first. -/
def onStore (root : String)
    (action : Directory → Except Failure String × Directory)
    (files : FileTree) : Except Failure String × FileTree :=
  let (created, files) := files.createDirectory "/" root
  match created.bind fun () => files.locate "/" root with
  | .error error => (.error (.noStore root error), files)
  | .ok place =>
      let (result, directory) :=
        action (Store.opened root (files.directory place))
      (result, files.withContents place (Store.closed directory))

def inSession (surroundings : Surroundings) (locations : Locations)
    (settings : Settings)
    (action : Session → Directory → Except Failure String × Directory)
    (files : FileTree) : Except Failure String × FileTree :=
  let root := locations.stateDirectory settings
  onStore root (fun directory =>
    match Session.ofSettings settings locations.settingsFile root
        (surroundings.variableValues.get? settings.environment.tokenVariable)
        surroundings.toTimes with
    | .ok session => action session directory
    | .error failure => (.error failure, directory)) files

def runCommand (surroundings : Surroundings) (locations : Locations)
    (settings : Settings) (file : String) (job : Job) (command : Command)
    (files : FileTree) : Except Failure String × FileTree :=
  let inSession := inSession surroundings locations settings
  match command with
  | .validate => (validate file job, files)
  | .plan => (plan settings.environment surroundings.now file job, files)
  | .apply => inSession (fun session => session.apply job) files
  | .refresh => inSession (fun session => session.refresh job) files
  | .destroy => inSession (fun session => session.destroy job) files
  | .show =>
      let root := locations.stateDirectory settings
      onStore root (fun directory =>
        (showRecord root job directory, directory)) files

/-- Find the settings and the job, and run the command on it. -/
def invoke (surroundings : Surroundings) (options : Options)
    (command : Command) (file : String) (files : FileTree) :
    Except Failure String × FileTree :=
  match Locations.ofVariables? surroundings.variableValues with
  | none => (.error .homeless, files)
  | some locations =>
      match findSettings locations files with
      | (.error failure, files) => (.error failure, files)
      | (.ok found, files) =>
          let settings :=
            { found with backend := options.backend.getD found.backend }
          match files.load Job.readDeclared surroundings.workingDirectory file
            with
          | .error failure => (.error (.loading failure), files)
          | .ok job =>
              runCommand surroundings locations settings file job command
                files

def run (surroundings : Surroundings) (arguments : List String)
    (files : FileTree) : Report × FileTree :=
  match Request.ofArguments? {} arguments with
  | none => (.misused, files)
  | some .version =>
      (.ofResult (.ok (programName ++ " " ++ version ++ "\n")), files)
  | some .help => (.ofResult (.ok usage), files)
  | some (.invoke options command file) =>
      let (result, files) := invoke surroundings options command file files
      (.ofResult result, files)

end ScheduledJobs.CommandLine
