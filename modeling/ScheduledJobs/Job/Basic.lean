import ScheduledJobs.Job.Schedule

/-!
# Declared jobs

A job as its owner declares it: what it requests, how failures are retried, and
when it runs.
-/

namespace ScheduledJobs

/-- A user name with a password. -/
structure BasicCredentials where
  username : String
  password : String
  deriving DecidableEq, Inhabited

/-- A client certificate; the last three fields are known to the service
alone. -/
structure CertificateCredentials where
  pfx : String
  password : String
  thumbprint : Option String
  expiration : Option Instant
  subjectName : Option String
  deriving DecidableEq, Inhabited

/-- A client that is registered in a directory. -/
structure DirectoryCredentials where
  tenantId : String
  clientId : String
  secret : String
  audience : Option String
  deriving DecidableEq, Inhabited

/-- How a request proves who sends it. -/
inductive Credentials where
  | basic (credentials : BasicCredentials)
  | certificate (credentials : CertificateCredentials)
  | directory (credentials : DirectoryCredentials)
  deriving DecidableEq, Inhabited

/-- A request that a job makes. -/
structure WebAction where
  url : String
  method : String
  body : Option String
  headers : SortedMap String
  credentials : Option Credentials
  deriving DecidableEq, Inhabited

/-- Retries a fixed number of times at a fixed interval. -/
structure FixedRetry where
  interval : String := "00:00:30"
  count : Int32 := 4
  deriving DecidableEq, Inhabited

/-- How often a failed request is repeated. -/
inductive Retry where
  | never
  | fixed (retry : FixedRetry)
  deriving DecidableEq, Inhabited

/-- When a job runs again. -/
structure Recurrence where
  frequency : String
  interval : Int32 := 1
  count : Option Int32 := none
  endTime : Option Instant := none
  schedule : Schedule := {}
  deriving BEq, Inhabited

/-- A job as declared. -/
structure Job where
  name : String
  resourceGroup : String
  collection : String
  action : Option WebAction := none
  errorAction : Option WebAction := none
  retry : Retry := .never
  recurrence : Option Recurrence := none
  startTime : Option Instant := none
  state : Option String := none
  deriving BEq, Inhabited

/-- The place of a job: its resource group, collection and name. -/
def Job.address (job : Job) : String :=
  job.resourceGroup ++ "/" ++ job.collection ++ "/" ++ job.name

end ScheduledJobs
