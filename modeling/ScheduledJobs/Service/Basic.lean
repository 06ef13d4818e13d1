import ScheduledJobs.Definition.Basic
import ScheduledJobs.JobId
import ScheduledJobs.Text.Decimal

/-!
# Services

A service holds definitions of jobs. Every call on it may change its state, and
either gives an answer or fails.
-/

namespace ScheduledJobs

namespace Service

/-- Why a call on a service fails. -/
inductive Error where
  /-- There is no such job. -/
  | notFound
  /-- The service refuses with a status code. -/
  | status (code : Nat) (message : String)
  /-- The request gets no answer. -/
  | request (reason : String)
  /-- The answer makes no sense. -/
  | decode (reason : String)
  /-- There is nothing to authenticate with. -/
  | credentials (reason : String)
  /-- The store of the emulator fails: what has been attempted, and then the
  causes. -/
  | backend (trace : List String)
  /-- A date beyond the calendar would be needed. -/
  | beyondCalendar
  deriving DecidableEq

def Error.message : Error → String
  | .notFound => "job not found"
  | .status code message =>
      "service returned status " ++
        String.ofList (Text.Decimal.natural code) ++ ": " ++ message
  | .request reason => "request failed: " ++ reason
  | .decode reason => "invalid response: " ++ reason
  | .credentials reason => "missing credentials: " ++ reason
  | .backend trace => "local backend: " ++ String.intercalate ": " trace
  | .beyondCalendar => "no date is left in the calendar"

end Service

/-- A service with a state of type `State`. -/
structure Service (State : Type) where
  /-- Create the job or replace it; the answer is what is stored. -/
  createOrUpdate :
    JobId → Definition → State → Except Service.Error Definition × State
  /-- The definition of the job. -/
  get : JobId → State → Except Service.Error Definition × State
  /-- Remove the job. -/
  delete : JobId → State → Except Service.Error Unit × State

end ScheduledJobs
