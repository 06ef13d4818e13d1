import ScheduledJobs.Definition.Basic
import ScheduledJobs.Environment
import ScheduledJobs.Job.Basic
import ScheduledJobs.Job.Url

/-!
# From declarations to definitions

What is sent to the service for a declared job. The clock fills in a missing
start, and the environment a missing audience.
-/

namespace ScheduledJobs

open Definition

/-- The authentication that is sent; what the service knows of a certificate is
not. -/
def Credentials.toAuthentication (environment : Environment) :
    Credentials → Authentication
  | .basic given =>
      .basic { username := given.username, password := given.password }
  | .certificate given =>
      .certificate { pfx := given.pfx, password := given.password }
  | .directory given =>
      .directory {
        secret := given.secret
        tenant := given.tenantId
        audience := given.audience.getD environment.managementEndpoint
        clientId := given.clientId }

namespace WebAction

/-- The kind of action that requests to an address are. -/
def kindOf (url : String) : ActionKind :=
  if Url.isSecure url then .https else .http

/-- The request that is sent; an empty body is no body. -/
def toRequest (environment : Environment) (action : WebAction) : Request where
  authentication :=
    action.credentials.map (Credentials.toAuthentication environment)
  uri := action.url
  method := action.method
  body := action.body.filter fun body => !body.isEmpty
  headers := action.headers

end WebAction

/-- The policy that is sent; an empty interval is left out. -/
def Retry.toPolicy : Retry → RetryPolicy
  | .never => { kind := some .never }
  | .fixed retry =>
      { kind := some .fixed
        interval :=
          (some retry.interval).filter fun interval => !interval.isEmpty
        count := retry.count }

/-- The day that is sent for a numbered day. -/
def MonthlyOccurrence.toNumberedDay (numbered : MonthlyOccurrence) :
    NumberedDay :=
  { day := numbered.day.name, occurrence := numbered.occurrence }

/-- The members of a collection, in their order. -/
def Presence.memberList? {α : Type} [Identified α]
    (presence : Presence (IdentitySet α)) : Option (List α) :=
  presence.members?.map IdentitySet.members

/-- The timetable that is sent; there is none without members of at least one
collection. -/
def Schedule.toTimetable? (schedule : Schedule) : Option Timetable :=
  if schedule.isEmpty then
    none
  else
    some {
      weekDays := schedule.weekDays.memberList?.map (List.map DayName.name)
      hours := schedule.hours.memberList?
      minutes := schedule.minutes.memberList?
      monthDays := schedule.monthDays.memberList?
      monthlyOccurrences := schedule.monthlyOccurrences.memberList?.map
        (List.map MonthlyOccurrence.toNumberedDay) }

/-- The repetition that is sent. -/
def Recurrence.toRepetition (recurrence : Recurrence) : Repetition where
  frequency := recurrence.frequency
  interval := recurrence.interval
  count := recurrence.count
  endTime := recurrence.endTime
  timetable := recurrence.schedule.toTimetable?

namespace Job

/-- The main action that is sent. -/
def toAction (environment : Environment) (job : Job) : Action where
  kind := job.action.map fun action => WebAction.kindOf action.url
  request := job.action.map (WebAction.toRequest environment)
  retryPolicy := some job.retry.toPolicy
  errorAction := job.errorAction.map fun action =>
    { kind := some (WebAction.kindOf action.url)
      request := some (action.toRequest environment) }

/-- The definition that is sent at the given time. -/
def toDefinition (environment : Environment) (now : Instant) (job : Job) :
    Definition where
  properties := some {
    startTime := job.startTime.getD now
    action := some (job.toAction environment)
    repetition := job.recurrence.map Recurrence.toRepetition
    state := job.state }

end Job

end ScheduledJobs
