import ScheduledJobs.Proofs.Service.Answer
import ScheduledJobs.Proofs.Service.Emulator

/-!
# What the emulator announces

Whoever takes a stored definition for a declaration sees nothing of the edits
but a state and the details of certificates.
-/

namespace ScheduledJobs

open Definition Text

namespace Definition

/-- The certificate that is sent in the request. -/
def Request.certificate? (request : Request) : Option String :=
  match request.authentication with
  | some (.certificate given) => given.pfx
  | _ => none

def mainCertificate? (definition : Definition) : Option String :=
  ((definition.properties.bind Properties.action).bind Action.request).bind
    Request.certificate?

def errorCertificate? (definition : Definition) : Option String :=
  (((definition.properties.bind Properties.action).bind
    Action.errorAction).bind ErrorAction.request).bind Request.certificate?

end Definition

/-- The credentials with the details of a certificate that was sent for the job
with the given name: its fingerprint in sixteen hexadecimal digits, its subject
and the time at which it expires. -/
def Credentials.detailed (name : String) (expiry : Instant) (pfx : String) :
    Credentials → Credentials
  | .certificate given =>
      .certificate { given with
        thumbprint := some (String.ofList (Hexadecimal.capitals 16
          (Fingerprint.ofOctets (Utf8.encode pfx)).toNat))
        subjectName := some ("CN=" ++ name)
        expiration := some expiry }
  | other => other

/-- The action with the details of a certificate, if one was sent. -/
def WebAction.detailed (name : String) (expiry : Instant)
    (pfx? : Option String) (action : WebAction) : WebAction :=
  match pfx? with
  | some pfx => action.withCredentials (Credentials.detailed name expiry pfx)
  | none => action

/-- The job that the definition says, with what the emulator announces when
certificates expire at the given time. -/
def Definition.announced (id : JobId) (expiry : Instant)
    (definition : Definition) : Job :=
  let job := definition.toJob id
  { job with
    action := job.action.map
      (WebAction.detailed id.name expiry definition.mainCertificate?)
    errorAction := job.errorAction.map
      (WebAction.detailed id.name expiry definition.errorCertificate?)
    state := some (job.state.getD "Enabled") }

namespace Emulator

variable (name : String) (expiry : Instant)

/-- A sealed request is taken for the action of the request as it was sent, with
the details of the certificate in it. -/
theorem toWebAction_sealedRequest_eq_detailed (request : Request) :
    (sealedRequest name expiry request).toWebAction =
      request.toWebAction.detailed name expiry request.certificate? := by
  obtain ⟨authentication, uri, method, body, headers⟩ := request
  rcases authentication with
    _ | given | ⟨_ | pfx, password, thumbprint, expiration, subjectName⟩ |
      given | _ <;> rfl

variable (action : Action)

theorem toWebAction?_sealedAction_eq_detailed :
    (sealedAction name expiry action).toWebAction? =
      action.toWebAction?.map (WebAction.detailed name expiry
        (action.request.bind Request.certificate?)) := by
  obtain ⟨kind, request, retryPolicy, errorAction⟩ := action
  cases web : kind.any ActionKind.isWeb <;> cases request <;>
    simp [Action.toWebAction?, Action.isWeb, sealedAction, web,
      toWebAction_sealedRequest_eq_detailed]

theorem toErrorAction?_sealedAction_eq_detailed :
    (sealedAction name expiry action).toErrorAction? =
      action.toErrorAction?.map (WebAction.detailed name expiry
        ((action.errorAction.bind ErrorAction.request).bind
          Request.certificate?)) := by
  obtain ⟨kind, request, retryPolicy, errorAction⟩ := action
  cases web : kind.any ActionKind.isWeb <;>
    rcases errorAction with _ | ⟨_, _ | request⟩ <;>
    simp [Action.toErrorAction?, Action.isWeb, sealedAction,
      sealedErrorAction, web, toWebAction_sealedRequest_eq_detailed]

theorem toJob_stored_beq_announced (id : JobId) (definition : Definition) :
    ((stored id expiry definition).toJob id ==
      definition.announced id expiry) = true := by
  obtain ⟨given, givenName, resourceType, properties⟩ := definition
  rcases properties with _ | ⟨startTime, action, repetition, state⟩
  · exact Job.beq_of_recurrence rfl rfl
  · have main : (action.map (sealedAction id.name expiry)).bind
          Action.toWebAction? =
        (action.bind Action.toWebAction?).map (WebAction.detailed id.name
          expiry ((action.bind Action.request).bind Request.certificate?)) := by
      cases action with
      | none => rfl
      | some action => exact toWebAction?_sealedAction_eq_detailed _ _ action
    have error : (action.map (sealedAction id.name expiry)).bind
          Action.toErrorAction? =
        (action.bind Action.toErrorAction?).map (WebAction.detailed id.name
          expiry (((action.bind Action.errorAction).bind
            ErrorAction.request).bind Request.certificate?)) := by
      cases action with
      | none => rfl
      | some action => exact toErrorAction?_sealedAction_eq_detailed _ _ action
    have retry : (action.map (sealedAction id.name expiry)).elim .never
          Action.toRetry = action.elim .never Action.toRetry := by
      cases action <;> rfl
    apply Job.beq_of_recurrence
    · simp only [stored, storedProperties, Definition.toJob, announced,
        mainCertificate?, errorCertificate?, Option.getD_some,
        Option.bind_some, main, error, retry, standardState]
    · cases repetition with
      | none => rfl
      | some repetition => exact toRecurrence_lowerRepetition_beq repetition

/-- Whatever definition is sent, what the emulator makes of it is taken for the
job that the definition says, with what is announced and nothing else; it is
also what the emulator answers when it stores the definition. -/
theorem announces {now expiry : Instant}
    (inCalendar : now.laterByDays? 365 = some expiry) (id : JobId)
    (definition : Definition) :
    ((stored id expiry definition).toJob id ==
        definition.announced id expiry) = true ∧
      ∀ root directory kept next,
        createOrUpdate root now id definition directory = (.ok kept, next) →
          kept = stored id expiry definition := by
  refine ⟨toJob_stored_beq_announced expiry id definition, ?_⟩
  intro root directory kept next done
  obtain ⟨-, isKept, -⟩ := eq_saved_of_createOrUpdate done
  have inCalendar : now.laterByDays? certificateDays = some expiry :=
    inCalendar
  rw [isKept, storedAt, inCalendar, Option.getD_some]

/-- A definition with one certificate that is sent and one that is not, and with
days in many spellings. -/
def certified : Definition where
  properties := some {
    action := some {
      kind := some .https
      request := some {
        uri := some "https://host"
        authentication := some (.certificate {
          pfx := some "MIIB", thumbprint := some "OLD" }) }
      errorAction := some {
        kind := some .storageQueue
        request := some {
          authentication := some (.certificate {
            thumbprint := some "KEPT" }) } } }
    repetition := some {
      timetable := some {
        weekDays := some ["MONDAY", "monday", "ΤΕΛΟΣ", "τελος"]
        monthlyOccurrences := some [
          { day := "Friday" }, { day := "FRIDAY", occurrence := some (-1) },
          { day := "friday", occurrence := some (-1) }] } } }

/-- The start of a leap day, and the time 365 days later. -/
def leapDay : Instant :=
  { Instant.epoch with date := ⟨2028, 2, 29, by decide, by decide, by decide⟩ }

def yearAfter : Instant :=
  { Instant.epoch with date := ⟨2029, 2, 28, by decide, by decide, by decide⟩ }

def credentialsOf (job : Job) : List (Option Credentials) :=
  job.webActions.map WebAction.credentials

/-- The certificate that is sent on the leap day is announced with its details,
and the other one is told as it was. -/
theorem announces_certified :
    let id : JobId := ⟨"main", "group", "daily", "report"⟩
    leapDay.laterByDays? 365 = some yearAfter ∧
      ((stored id yearAfter certified).toJob id ==
        certified.announced id yearAfter) = true ∧
      credentialsOf (certified.announced id yearAfter) = [
        some (.certificate {
          pfx := ""
          password := ""
          thumbprint := some "1A6E67AF46538BB4"
          expiration := some yearAfter
          subjectName := some "CN=report" }),
        some (.certificate {
          pfx := ""
          password := ""
          thumbprint := some "KEPT"
          expiration := none
          subjectName := none })] := by
  intro id
  have inCalendar : leapDay.laterByDays? 365 = some yearAfter := by
    decide +kernel
  exact ⟨inCalendar, (announces inCalendar id certified).1, by decide +kernel⟩

end Emulator

end ScheduledJobs
