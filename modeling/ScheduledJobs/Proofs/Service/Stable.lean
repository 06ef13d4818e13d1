import ScheduledJobs.Proofs.Exchange.Requests
import ScheduledJobs.Proofs.Exchange.Timetables
import ScheduledJobs.Proofs.Service.Emulator

/-!
# What is stored stays as it is

Sending the job that a stored definition says makes the emulator store the same
definition again, when it has no certificate.
-/

namespace ScheduledJobs

open Definition Text

/-- Whether the request of the action is authenticated by a certificate. -/
def WebAction.UsesCertificate (action : WebAction) : Prop :=
  ∃ given, action.credentials = some (.certificate given)

/-- The job as it is read back when it is sent at the given time and
certificates expire at the other one. -/
def Job.observed (environment : Environment) (now expiry : Instant)
    (job : Job) : Job :=
  { job.answered environment now expiry with
    recurrence := job.recurrence.map fun recurrence =>
      (Emulator.lowerRepetition recurrence.toRepetition).toRecurrence }

namespace Emulator

variable {job : Job}

theorem sendsCertificate_toRequest {action : WebAction}
    (plain : ¬action.UsesCertificate) (environment : Environment) :
    sendsCertificate (action.toRequest environment) = false := by
  obtain ⟨url, method, body, headers, credentials⟩ := action
  rcases credentials with _ | _ | given | _
  · rfl
  · rfl
  · exact absurd ⟨given, rfl⟩ plain
  · rfl

theorem needsExpiry_toDefinition
    (plain : ∀ action ∈ job.webActions, ¬action.UsesCertificate)
    (environment : Environment) (now : Instant) :
    needsExpiry (job.toDefinition environment now) = false := by
  rw [needsExpiry_eq_any_requests, job.requests_toDefinition, List.any_map,
    List.any_eq_false]
  intro action member sends
  rw [Function.comp_apply,
    sendsCertificate_toRequest (plain action member)] at sends
  cases sends

theorem sealedRequest_withCredentials {action : WebAction}
    (plain : ¬action.UsesCertificate) (environment other : Environment)
    (name : String) (expiry later : Instant) :
    sealedRequest name later
        ((action.withCredentials
          (Credentials.answered environment name expiry)).toRequest other) =
      sealedRequest name expiry (action.toRequest environment) := by
  obtain ⟨url, method, body, headers, credentials⟩ := action
  rcases credentials with _ | _ | given | _
  · rfl
  · rfl
  · exact absurd ⟨given, rfl⟩ plain
  · rfl

theorem toJob_storedAt (isRead : job.IsRead) (isSome : job.action.isSome = true)
    (environment : Environment) (now stamp : Instant) (subscription : String) :
    (storedAt (job.idIn subscription) stamp
        (job.toDefinition environment now)).toJob (job.idIn subscription) =
      job.observed environment now
        ((stamp.laterByDays? certificateDays).getD stamp) := by
  have action := toWebAction?_sealedAction isRead.action environment job.name
    ((stamp.laterByDays? certificateDays).getD stamp)
  have errorAction := toErrorAction?_sealedAction isSome isRead.errorAction
    environment job.name ((stamp.laterByDays? certificateDays).getD stamp)
  have retry : (sealedAction job.name
      ((stamp.laterByDays? certificateDays).getD stamp)
        (job.toAction environment)).toRetry = job.retry :=
    Retry.toRetry_toPolicy job.retry
  simp [storedAt, stored, storedProperties, Job.toDefinition,
    Definition.toJob, Job.observed, Job.answered, Job.idIn, action,
    errorAction, retry, standardState, Function.comp_def]

theorem keepsRules_observed (wellFormed : job.WellFormed)
    (rules : job.KeepsRules) (environment : Environment)
    (now expiry : Instant) :
    (job.observed environment now expiry).KeepsRules where
  hasAction := by simpa [Job.observed, Job.answered] using rules.hasAction
  ends := by
    intro recurrence isObserved
    obtain ⟨given, isGiven, rfl⟩ := Option.map_eq_some_iff.mp isObserved
    exact rules.ends given isGiven
  name := rules.name
  resourceGroup := rules.resourceGroup
  collection := rules.collection
  action := by
    intro action isObserved
    obtain ⟨given, isGiven, rfl⟩ := Option.map_eq_some_iff.mp isObserved
    have kept := rules.action given isGiven
    exact ⟨kept.url, kept.method⟩
  errorAction := by
    intro action isObserved
    obtain ⟨given, isGiven, rfl⟩ := Option.map_eq_some_iff.mp isObserved
    have kept := rules.errorAction given isGiven
    exact ⟨kept.url, kept.method⟩
  retry := rules.retry
  recurrence := by
    intro recurrence isObserved
    obtain ⟨given, isGiven, rfl⟩ := Option.map_eq_some_iff.mp isObserved
    exact keepsRules_toRecurrence_lowerRepetition (wellFormed given isGiven)
      (rules.recurrence given isGiven)
  state := by
    intro state isObserved
    obtain rfl := Option.some.inj isObserved
    cases given : job.state with
    | none => decide
    | some state => exact rules.state state given

theorem sealedAction_toAction_observed
    (plain : ∀ action ∈ job.webActions, ¬action.UsesCertificate)
    (environment other : Environment) (now expiry later : Instant) :
    sealedAction job.name later
        ((job.observed environment now expiry).toAction other) =
      sealedAction job.name expiry (job.toAction environment) := by
  let answered := (job.observed environment now expiry).toAction other
  let sent := job.toAction environment
  have sealedAgain (action : WebAction) (member : action ∈ job.webActions) :=
    sealedRequest_withCredentials (plain action member) environment other
      job.name expiry later
  have kind : answered.kind = sent.kind := by
    simp only [answered, sent, Job.toAction, Job.observed, Job.answered,
      Option.map_map]
    rfl
  have request : answered.request.map (sealedRequest job.name later) =
      sent.request.map (sealedRequest job.name expiry) := by
    simp only [answered, sent, Job.toAction, Job.observed, Job.answered,
      Option.map_map]
    exact Option.map_congr fun action isMain =>
      sealedAgain action (by simp [Job.webActions, isMain])
  have errorAction :
      answered.errorAction.map (sealedErrorAction job.name later) =
        sent.errorAction.map (sealedErrorAction job.name expiry) := by
    simp only [answered, sent, Job.toAction, Job.observed, Job.answered,
      Option.map_map]
    refine Option.map_congr fun action isError => ?_
    have again := sealedAgain action (by simp [Job.webActions, isError])
    simp only [Function.comp_apply, sealedErrorAction, Option.map_some, again]
    rfl
  have retryPolicy : answered.retryPolicy = sent.retryPolicy := rfl
  change sealedAction job.name later answered =
    sealedAction job.name expiry sent
  rw [sealedAction, kind, request, retryPolicy, errorAction, sealedAction]

theorem stored_toDefinition_observed (wellFormed : job.WellFormed)
    (rules : job.KeepsRules)
    (plain : ∀ action ∈ job.webActions, ¬action.UsesCertificate)
    (environment other : Environment) (now expiry next later : Instant)
    (subscription : String) :
    stored (job.idIn subscription) later
        ((job.observed environment now expiry).toDefinition other next) =
      stored (job.idIn subscription) expiry
        (job.toDefinition environment now) := by
  have action := sealedAction_toAction_observed plain environment other now
    expiry later
  have repetition : ((job.observed environment now expiry).recurrence.map
        Recurrence.toRepetition).map lowerRepetition =
      (job.recurrence.map Recurrence.toRepetition).map lowerRepetition := by
    simp only [Job.observed]
    cases given : job.recurrence with
    | none => rfl
    | some recurrence =>
        exact congrArg some (lowerRepetition_toRepetition_toRecurrence
          (wellFormed recurrence given) (rules.recurrence recurrence given))
  simp only [stored, storedProperties, Job.toDefinition, Option.getD_some,
    Option.map_some, Job.idIn, action, repetition]
  rfl

theorem webActions_observed (environment : Environment) (now expiry : Instant)
    (job : Job) :
    (job.observed environment now expiry).webActions =
      job.webActions.map (WebAction.withCredentials
        (Credentials.answered environment job.name expiry)) := by
  simp [Job.webActions, Job.observed, Job.answered, Option.toList_map]

theorem not_usesCertificate_observed
    (plain : ∀ action ∈ job.webActions, ¬action.UsesCertificate)
    (environment : Environment) (now expiry : Instant) :
    ∀ action ∈ (job.observed environment now expiry).webActions,
      ¬action.UsesCertificate := by
  rw [webActions_observed]
  intro action isObserved ⟨given, isCertificate⟩
  obtain ⟨sent, isSent, rfl⟩ := List.mem_map.mp isObserved
  obtain ⟨credentials, isGiven, answered⟩ :=
    Option.map_eq_some_iff.mp isCertificate
  cases credentials with
  | certificate certificate => exact plain sent isSent ⟨certificate, isGiven⟩
  | basic => cases answered
  | directory => cases answered

end Emulator

end ScheduledJobs
