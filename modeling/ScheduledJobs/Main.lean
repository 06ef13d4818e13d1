import ScheduledJobs.CommandLine.Program
import Std.Time.DateTime.Timestamp

/-!
# The program

What a run needs is read from the machine, and what it changes is written
back.
-/

open ScheduledJobs ScheduledJobs.CommandLine

/-- Add what the machine has along a path to the files. -/
def survey (base path : String) (known : FileTree) : IO FileTree := do
  let mut files := known
  let mut place : List String := []
  for name in FileTree.start base path do
    files := FileTree.withFolder files place name
    place := place ++ [name]
  for name in Path.names path do
    if name = ".." then
      place := place.dropLast
    else if Path.moves name then
      let here := Path.ofNames (place ++ [name])
      try
        if ← (← IO.FS.realPath here).isDir then
          files := FileTree.withFolder files place name
          place := place ++ [name]
        else
          let octets ← IO.FS.readBinFile here
          files := FileTree.withFile files place name octets.toList
      catch _ => return files
  return files

/-- Add the files in a directory of the machine to the files. -/
def surveyStore (path : String) (known : FileTree) : IO FileTree := do
  let mut files ← survey "/" path known
  try
    for entry in ← (← IO.FS.realPath path).readDir do
      files ← survey path entry.fileName files
  catch _ => return files
  return files

/-- Write a file in such a way that no reader sees half of it. -/
def replaceFile (path : String) (octets : List UInt8) : IO Unit := do
  IO.FS.withFile (path ++ ".tmp") .write fun handle => do
    handle.write ⟨octets.toArray⟩
    handle.flush
  IO.FS.rename (path ++ ".tmp") path

/-- Write what has changed back to the machine. -/
def writeBack (before after : FileTree) : IO Unit := do
  for (path, directory) in after.entries do
    unless before.contains path do
      IO.FS.createDirAll path
    let old : Directory := (before.get? path).getD ∅
    for (name, entry) in directory.contents.entries do
      if let .file octets := entry then
        unless old.get? name == some entry do
          replaceFile (Path.join path name) octets
    for (name, _) in old.contents.entries do
      unless directory.contents.contains name do
        IO.FS.removeFile (Path.join path name)

/-- The values of the environment variables with the given names. -/
def readVariables (names : List String) : IO (SortedMap String) := do
  let mut values : SortedMap String := ∅
  for name in names do
    if let some value ← IO.getEnv name then
      values := values.insert name value
  return values

/-- The values of variables and the files that a run of a command finds. -/
def gather (workingDirectory file : String) :
    IO (SortedMap String × FileTree) := do
  let places := ["HOME", "XDG_CONFIG_HOME", "XDG_DATA_HOME"]
  let values ← readVariables places
  let files ← survey workingDirectory file .bare
  match Locations.ofVariables? values with
  | none => return (values, files)
  | some locations =>
      let files ← survey "/" locations.settingsFile files
      match findSettings locations files with
      | (.error _, _) => return (values, files)
      | (.ok settings, _) =>
          let values ←
            readVariables (settings.environment.tokenVariable :: places)
          let files ← surveyStore (locations.stateDirectory settings) files
          return (values, files)

/-- The time by the clock of the machine. -/
def readClock : IO Instant := do
  let now ← Std.Time.Timestamp.now
  return (Instant.afterEpoch?
    now.toNanosecondsSinceUnixEpoch.val.toNat).getD .epoch

def main (arguments : List String) : IO UInt32 := do
  let workingDirectory := (← IO.currentDir).toString
  let (values, files) ←
    match Request.ofArguments? {} arguments with
    | some (.invoke _ _ file) => gather workingDirectory file
    | _ => pure (∅, .bare)
  let now ← readClock
  let stamp ← readClock
  let recordedAt ← readClock
  let surroundings : Surroundings :=
    { now, stamp, recordedAt, workingDirectory, variableValues := values }
  let (report, after) := run surroundings arguments files
  writeBack files after
  (← IO.getStdout).putStr report.output
  (← IO.getStderr).putStr report.errors
  return UInt32.ofNat report.exitCode
