import ScheduledJobs.Loading
import ScheduledJobs.Store.Basic
import ScheduledJobs.Synchronizer

/-!
# Failures of commands

A failure is reported with what has gone wrong and, apart from it, with what
lies behind it.
-/

namespace ScheduledJobs.CommandLine

/-- Why a command fails. -/
inductive Failure where
  /-- Nothing tells where the files of the program are. -/
  | homeless
  /-- The directory of the settings cannot be created. -/
  | noConfiguration (path : String) (cause : FileError)
  /-- The standard settings cannot be written. -/
  | unwritable (path : String) (cause : FileError)
  /-- A file of settings or of a job cannot be loaded. -/
  | loading (cause : LoadFailure)
  /-- The job that is checked breaks rules. -/
  | broken (file : String) (violations : List Violation)
  /-- The job that is planned breaks rules. -/
  | invalid (file : String) (violations : List Violation)
  /-- The directory of the records cannot be created. -/
  | noStore (path : String) (cause : FileError)
  /-- The store with the given root fails. -/
  | store (root : String) (cause : Store.Failure)
  /-- No subscription is set in the file. -/
  | noSubscription (path : String)
  /-- The service cannot be reached at all. -/
  | service (cause : Service.Error)
  /-- The job cannot be brought in line. -/
  | synchronizer (cause : Synchronizer.Failure)
  /-- The job is to be read again, but has no record. -/
  | unmanaged (address : String)
  /-- The record of a job is to be shown, but there is none. -/
  | unrecorded (address : String)
  deriving DecidableEq

namespace Failure

def message : Failure → String
  | .homeless => "failed to resolve ProjectDirs"
  | .noConfiguration path _ => "create config dir " ++ path
  | .unwritable path _ => "write " ++ path
  | .loading cause => cause.attempt
  | .broken file violations => file ++ ": " ++ Violation.messages violations
  | .invalid file _ => "invalid job " ++ file
  | .noStore path _ => "create kv dir " ++ path
  | .store root cause => cause.attempt root
  | .noSubscription path => "subscription_id is not set in " ++ path
  | .service cause => cause.message
  | .synchronizer cause => cause.message
  | .unmanaged address => address ++ " is not managed yet; run apply first"
  | .unrecorded address => "no record for " ++ address

/-- What lies behind the failure, if there is anything. -/
def cause? : Failure → Option String
  | .noConfiguration _ cause => some cause.message
  | .unwritable _ cause => some cause.message
  | .loading cause => some cause.cause
  | .invalid _ violations => some (Violation.messages violations)
  | .noStore _ cause => some cause.message
  | .store _ cause => some cause.cause
  | .synchronizer cause => cause.cause?
  | _ => none

/-- The report of a failure; the lines of the cause are indented. -/
def report (failure : Failure) : String :=
  let cause :=
    failure.cause?.elim "" fun cause =>
      "\n\nCaused by:\n    " ++
        String.intercalate "\n    " (cause.splitOn "\n")
  "Error: " ++ failure.message ++ cause ++ "\n"

end Failure

end ScheduledJobs.CommandLine
