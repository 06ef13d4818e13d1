import ScheduledJobs.Definition.Basic
import ScheduledJobs.Job.Basic
import ScheduledJobs.JobId

/-!
# From definitions to declarations

What a definition that the service gives back says in the form of a
declaration. Secrets come out empty, whatever the definition holds.
-/

namespace ScheduledJobs

namespace Definition

/-- The credentials of an authentication; there are none of an unknown type. -/
def Authentication.toCredentials? : Authentication → Option Credentials
  | .basic given =>
      some (.basic { username := given.username.getD "", password := "" })
  | .certificate given =>
      some (.certificate {
        pfx := ""
        password := ""
        thumbprint := given.thumbprint
        expiration := given.expiration
        subjectName := given.subjectName })
  | .directory given =>
      some (.directory {
        tenantId := given.tenant.getD ""
        clientId := given.clientId.getD ""
        secret := ""
        audience := given.audience })
  | .unknown => none

def Request.toWebAction (request : Request) : WebAction where
  url := request.uri.getD ""
  method := request.method.getD ""
  body := request.body
  headers := request.headers.getD ∅
  credentials :=
    request.authentication.bind Authentication.toCredentials?

/-- Only a fixed policy is a retry. -/
def RetryPolicy.toRetry (policy : RetryPolicy) : Retry :=
  match policy.kind with
  | some .fixed =>
      .fixed
        { interval := policy.interval.getD ""
          count := policy.count.getD 0 }
  | _ => .never

/-- A numbered day, which has to have its number. -/
def NumberedDay.toOccurrence? (numbered : NumberedDay) :
    Option MonthlyOccurrence :=
  numbered.occurrence.map fun occurrence =>
    { day := ⟨numbered.day⟩, occurrence }

/-- The set of the items of a list that can be converted. -/
def collected {α β : Type} [Identified β] (convert : α → Option β) :
    Option (List α) → Presence (IdentitySet β)
  | none => .unset
  | some items => .provided (IdentitySet.ofList (items.filterMap convert))

def Timetable.toSchedule (timetable : Timetable) : Schedule where
  minutes := collected some timetable.minutes
  hours := collected some timetable.hours
  weekDays := collected (fun name => some ⟨name⟩) timetable.weekDays
  monthDays := collected some timetable.monthDays
  monthlyOccurrences :=
    collected NumberedDay.toOccurrence? timetable.monthlyOccurrences

def Repetition.toRecurrence (repetition : Repetition) : Recurrence where
  frequency := repetition.frequency.getD ""
  interval := repetition.interval.getD 1
  count := repetition.count
  endTime := repetition.endTime
  schedule := repetition.timetable.elim {} Timetable.toSchedule

/-- Whether the action is a request over the web. -/
def Action.isWeb (action : Action) : Bool :=
  action.kind.any ActionKind.isWeb

def Action.toWebAction? (action : Action) : Option WebAction :=
  if action.isWeb then action.request.map Request.toWebAction else none

/-- The error action, which is told under a main web action only. -/
def Action.toErrorAction? (action : Action) : Option WebAction :=
  if action.isWeb then
    (action.errorAction.bind ErrorAction.request).map Request.toWebAction
  else none

/-- The retry of an action. -/
def Action.toRetry (action : Action) : Retry :=
  action.retryPolicy.elim .never RetryPolicy.toRetry

/-- The declaration that the definition of the job with the given id amounts
to. -/
def toJob (id : JobId) (definition : Definition) : Job :=
  let identified : Job :=
    { name := id.name
      resourceGroup := id.resourceGroup
      collection := id.collection }
  match definition.properties with
  | none => identified
  | some properties =>
      { identified with
        action := properties.action.bind Action.toWebAction?
        errorAction := properties.action.bind Action.toErrorAction?
        retry := properties.action.elim .never Action.toRetry
        recurrence := properties.repetition.map Repetition.toRecurrence
        startTime := properties.startTime
        state := properties.state }

end Definition

end ScheduledJobs
