import ScheduledJobs.Instant.Basic
import ScheduledJobs.SortedMap
import ScheduledJobs.Text.Caseless

/-!
# Definitions of jobs

A definition is the form in which the service exchanges jobs. Nearly every part
may be missing, because the service leaves out what it does not know or does
not tell.
-/

namespace ScheduledJobs

namespace Definition

open Text

/-- What kind of action a job takes. -/
inductive ActionKind where
  | http
  | https
  | storageQueue
  | serviceBusQueue
  | serviceBusTopic
  | other (name : String)
  deriving DecidableEq

namespace ActionKind

def name : ActionKind → String
  | .http => "Http"
  | .https => "Https"
  | .storageQueue => "StorageQueue"
  | .serviceBusQueue => "ServiceBusQueue"
  | .serviceBusTopic => "ServiceBusTopic"
  | .other name => name

def known : List ActionKind :=
  [.http, .https, .storageQueue, .serviceBusQueue, .serviceBusTopic]

/-- The kind with the name, in any case. -/
def ofName (name : String) : ActionKind :=
  (known.find? fun kind => caselessEq kind.name name).getD (.other name)

/-- Whether the kind is a request over the web. -/
def isWeb : ActionKind → Bool
  | .http | .https => true
  | _ => false

end ActionKind

/-- What kind of retries a job makes. -/
inductive RetryKind where
  | never
  | fixed
  | other (name : String)
  deriving DecidableEq

namespace RetryKind

def name : RetryKind → String
  | .never => "None"
  | .fixed => "Fixed"
  | .other name => name

/-- The kind with the name, in any case. -/
def ofName (name : String) : RetryKind :=
  if caselessEq name "fixed" then .fixed
  else if caselessEq name "none" then .never
  else .other name

end RetryKind

/-- A user name with a password. -/
structure BasicAuthentication where
  username : Option String := none
  password : Option String := none
  deriving DecidableEq

/-- A client certificate with what the service knows of it. -/
structure CertificateAuthentication where
  pfx : Option String := none
  password : Option String := none
  thumbprint : Option String := none
  expiration : Option Instant := none
  subjectName : Option String := none
  deriving DecidableEq

/-- A client that is registered in a directory. -/
structure DirectoryAuthentication where
  secret : Option String := none
  tenant : Option String := none
  audience : Option String := none
  clientId : Option String := none
  deriving DecidableEq

/-- How a request proves who sends it. -/
inductive Authentication where
  | basic (given : BasicAuthentication)
  | certificate (given : CertificateAuthentication)
  | directory (given : DirectoryAuthentication)
  | unknown
  deriving DecidableEq

/-- A request over the web. -/
structure Request where
  authentication : Option Authentication := none
  uri : Option String := none
  method : Option String := none
  body : Option String := none
  headers : Option (SortedMap String) := none
  deriving DecidableEq

/-- How a failed action is repeated. -/
structure RetryPolicy where
  kind : Option RetryKind := none
  interval : Option String := none
  count : Option Int32 := none
  deriving DecidableEq

/-- The action that is taken when the main action fails. -/
structure ErrorAction where
  kind : Option ActionKind := none
  request : Option Request := none
  deriving DecidableEq

/-- The main action. -/
structure Action where
  kind : Option ActionKind := none
  request : Option Request := none
  retryPolicy : Option RetryPolicy := none
  errorAction : Option ErrorAction := none
  deriving DecidableEq

/-- A day of the month by name and number. -/
structure NumberedDay where
  day : String
  occurrence : Option Int32 := none
  deriving DecidableEq

/-- The times at which a recurring job runs. -/
structure Timetable where
  weekDays : Option (List String) := none
  hours : Option (List Int32) := none
  minutes : Option (List Int32) := none
  monthDays : Option (List Int32) := none
  monthlyOccurrences : Option (List NumberedDay) := none
  deriving DecidableEq

/-- When a job runs again. -/
structure Repetition where
  frequency : Option String := none
  interval : Option Int32 := none
  count : Option Int32 := none
  endTime : Option Instant := none
  timetable : Option Timetable := none
  deriving DecidableEq

/-- What the service knows of a job besides its identity. -/
structure Properties where
  startTime : Option Instant := none
  action : Option Action := none
  repetition : Option Repetition := none
  state : Option String := none
  deriving DecidableEq

end Definition

/-- A job as the service exchanges it. -/
structure Definition where
  id : Option String := none
  name : Option String := none
  resourceType : Option String := none
  properties : Option Definition.Properties := none
  deriving DecidableEq, Inhabited

end ScheduledJobs
