/-!
# Verbosity

How much is logged: each request for more raises the level by one step.
-/

namespace ScheduledJobs

/-- The name of the level after a number of requests for more. -/
def logLevel (requests : Nat) (base : String) : String :=
  match requests with
  | 0 => base
  | 1 => "debug"
  | _ => "trace"

end ScheduledJobs
