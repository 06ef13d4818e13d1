import ScheduledJobs.Proofs.Exchange.Settled
import ScheduledJobs.Proofs.Job.Reading
import ScheduledJobs.Proofs.Job.Validation
import ScheduledJobs.Proofs.Service.Days

/-!
# The answer of the emulator to a job

What the emulator stores of a job reads as the job itself, apart from the parts
that the emulator or the exchange fills in or drops.
-/

namespace ScheduledJobs

open Definition Text

/-- The credentials as the emulator gives them back, for the job with the given
name. -/
def Credentials.answered (environment : Environment) (name : String)
    (expiry : Instant) : Credentials → Credentials
  | .basic given => .basic { given with password := "" }
  | .certificate given =>
      .certificate {
        pfx := ""
        password := ""
        thumbprint := some (String.ofList (Hexadecimal.capitals 16
          (Fingerprint.ofOctets (Utf8.encode given.pfx)).toNat))
        expiration := some expiry
        subjectName := some ("CN=" ++ name) }
  | .directory given =>
      .directory {
        given with
        secret := ""
        audience := some (given.audience.getD environment.managementEndpoint) }

/-- The action with other credentials. -/
def WebAction.withCredentials (convert : Credentials → Credentials)
    (action : WebAction) : WebAction :=
  { action with credentials := action.credentials.map convert }

/-- The job as the emulator gives it back, when it is sent at the given time
and certificates expire at the other one. -/
def Job.answered (environment : Environment) (now expiry : Instant)
    (job : Job) : Job :=
  let answer :=
    WebAction.withCredentials
      (Credentials.answered environment job.name expiry)
  { job with
    action := job.action.map answer
    errorAction := job.errorAction.map answer
    recurrence := job.recurrence.map Recurrence.settled
    startTime := some (job.startTime.getD now)
    state := some (job.state.getD "Enabled") }

theorem WebAction.settledBy_eq_withCredentials {action : WebAction}
    (hasNoEmptyBody : action.HasNoEmptyBody)
    (convert : Credentials → Credentials) :
    action.settledBy convert = action.withCredentials convert := by
  obtain ⟨url, method, body, headers, credentials⟩ := action
  cases body with
  | none => rfl
  | some body =>
      have nonempty : body ≠ "" := fun empty =>
        hasNoEmptyBody (congrArg some empty)
      simp [settledBy, withCredentials, Option.filter, nonempty]

namespace Emulator

theorem toCredentials?_withDetails (environment : Environment)
    (name : String) (expiry : Instant) (credentials : Credentials) :
    (withDetails name expiry (credentials.toAuthentication
        environment)).withoutSecrets.toCredentials? =
      some (credentials.answered environment name expiry) := by
  cases credentials <;> rfl

theorem toWebAction_sealedRequest (environment : Environment) (name : String)
    (expiry : Instant) (action : WebAction) :
    (sealedRequest name expiry (action.toRequest environment)).toWebAction =
      action.settledBy (Credentials.answered environment name expiry) := by
  obtain ⟨url, method, body, headers, credentials⟩ := action
  cases credentials with
  | none => rfl
  | some credentials =>
      have taken :=
        toCredentials?_withDetails environment name expiry credentials
      simp only [sealedRequest, WebAction.toRequest,
        Definition.Request.toWebAction, WebAction.settledBy, Option.map_some,
        Option.bind_some, taken, Option.getD_some]

theorem toWebAction?_sealedAction {job : Job}
    (hasNoEmptyBody : ∀ action ∈ job.action, action.HasNoEmptyBody)
    (environment : Environment) (name : String) (expiry : Instant) :
    (sealedAction name expiry (job.toAction environment)).toWebAction? =
      job.action.map (WebAction.withCredentials
        (Credentials.answered environment name expiry)) := by
  cases given : job.action with
  | none => simp [Action.toWebAction?, Action.isWeb, sealedAction,
      Job.toAction, given]
  | some action =>
      have isWeb := WebAction.isWeb_kindOf action.url
      have answer := toWebAction_sealedRequest environment name expiry action
      rw [WebAction.settledBy_eq_withCredentials
        (hasNoEmptyBody action given)] at answer
      simp [Action.toWebAction?, Action.isWeb, sealedAction, Job.toAction,
        given, isWeb, answer]

theorem toErrorAction?_sealedAction {job : Job}
    (isSome : job.action.isSome = true)
    (hasNoEmptyBody : ∀ action ∈ job.errorAction, action.HasNoEmptyBody)
    (environment : Environment) (name : String) (expiry : Instant) :
    (sealedAction name expiry (job.toAction environment)).toErrorAction? =
      job.errorAction.map (WebAction.withCredentials
        (Credentials.answered environment name expiry)) := by
  obtain ⟨main, isMain⟩ := Option.isSome_iff_exists.mp isSome
  have isWeb := WebAction.isWeb_kindOf main.url
  cases given : job.errorAction with
  | none => simp [Action.toErrorAction?, sealedAction, Job.toAction, given]
  | some action =>
      have answer := toWebAction_sealedRequest environment name expiry action
      rw [WebAction.settledBy_eq_withCredentials
        (hasNoEmptyBody action given)] at answer
      simp [Action.toErrorAction?, Action.isWeb, sealedAction,
        sealedErrorAction, Job.toAction, given, isMain, isWeb, answer]

/-- What is stored of an accepted job that has been read is equal to the
answer. -/
theorem toJob_stored {job : Job} (isRead : job.IsRead)
    (isAccepted : job.IsAccepted) (environment : Environment)
    (now expiry : Instant) (subscription : String) :
    ((stored (job.idIn subscription) expiry
        (job.toDefinition environment now)).toJob (job.idIn subscription) ==
      job.answered environment now expiry) = true := by
  have action :=
    toWebAction?_sealedAction isRead.action environment job.name expiry
  have errorAction := toErrorAction?_sealedAction isAccepted.action
    isRead.errorAction environment job.name expiry
  have retry : (sealedAction job.name expiry
      (job.toAction environment)).toRetry = job.retry :=
    Retry.toRetry_toPolicy job.retry
  apply Job.beq_of_recurrence
  · simp [stored, storedProperties, Job.toDefinition, Definition.toJob,
      Job.answered, Job.idIn, action, errorAction, retry, standardState]
  · cases given : job.recurrence with
    | none =>
        simp [stored, storedProperties, Job.toDefinition, Definition.toJob,
          Job.answered, given]
    | some recurrence =>
        have same := toRecurrence_lowerRepetition_beq recurrence.toRepetition
        rw [Recurrence.toRecurrence_toRepetition
          (isRead.wellFormed recurrence given)] at same
        simpa [stored, storedProperties, Job.toDefinition, Definition.toJob,
          Job.answered, given] using same

end Emulator

end ScheduledJobs
