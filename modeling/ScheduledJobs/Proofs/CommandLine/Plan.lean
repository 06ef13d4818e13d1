import ScheduledJobs.CommandLine.Session
import ScheduledJobs.Proofs.Definition.Redaction
import ScheduledJobs.Proofs.Service.Answer
import ScheduledJobs.Proofs.Synchronizer.Conduct

/-!
# Plans

A plan shows the payload that would be sent for a job, but for its secrets.
-/

namespace ScheduledJobs

open Document

/-- The credentials with nothing written in place of secrets. -/
def Credentials.withoutSecrets : Credentials → Credentials
  | .basic given => .basic { given with password := "" }
  | .certificate given =>
      .certificate { given with pfx := "", password := "" }
  | .directory given => .directory { given with secret := "" }

/-- The action without the secrets of its credentials. -/
def WebAction.withoutSecrets (action : WebAction) : WebAction :=
  action.withCredentials Credentials.withoutSecrets

/-- The job without the secrets of its actions. -/
def Job.withoutSecrets (job : Job) : Job :=
  { job with
    action := job.action.map .withoutSecrets
    errorAction := job.errorAction.map .withoutSecrets }

theorem Job.violations_withoutSecrets (job : Job) :
    job.withoutSecrets.violations = job.violations := by
  have action (key : String) :
      WebAction.violations key ∘ WebAction.withoutSecrets =
        WebAction.violations key := rfl
  simp only [violations, structureViolations, fieldViolations, withoutSecrets,
    Option.isSome_map, Option.elim_map, action]

theorem Job.isValid_withoutSecrets (job : Job) :
    job.withoutSecrets.isValid = job.isValid :=
  congrArg List.isEmpty job.violations_withoutSecrets

section

variable (environment : Environment)

theorem Credentials.toAuthentication_withoutSecrets
    (credentials : Credentials) :
    (credentials.withoutSecrets.toAuthentication environment).withoutSecrets =
      (credentials.toAuthentication environment).withoutSecrets := by
  cases credentials <;> rfl

theorem WebAction.toRequest_withoutSecrets (action : WebAction) :
    (action.withoutSecrets.toRequest environment).withoutSecrets =
      (action.toRequest environment).withoutSecrets := by
  simp only [toRequest, withoutSecrets, withCredentials,
    Definition.Request.withoutSecrets, Option.map_map, Function.comp_def,
    Credentials.toAuthentication_withoutSecrets]

theorem Job.toAction_withoutSecrets (job : Job) :
    (job.withoutSecrets.toAction environment).withoutSecrets =
      (job.toAction environment).withoutSecrets := by
  have url (action : WebAction) : action.withoutSecrets.url = action.url := rfl
  simp only [toAction, withoutSecrets, Definition.Action.withoutSecrets,
    Definition.ErrorAction.withoutSecrets, Option.map_map, Function.comp_def,
    Option.map_some, url, WebAction.toRequest_withoutSecrets]

theorem Job.toDefinition_withoutSecrets (now : Instant) (job : Job) :
    (job.withoutSecrets.toDefinition environment now).withoutSecrets =
      (job.toDefinition environment now).withoutSecrets := by
  simp only [toDefinition, Definition.withoutSecrets,
    Definition.Properties.withoutSecrets, Option.map_some,
    toAction_withoutSecrets]
  rfl

end

namespace Synchronizer

open Service

variable {State : Type} {synchronizer : Synchronizer State}
  {state next : State} {calls : List Call}

theorem Looks.eq_get_of_mem {id : String} {result : Except Failure Reading}
    (looks : Looks synchronizer id state calls result next) :
    ∀ call ∈ calls, ∃ jobId, call = .get jobId := by
  cases looks <;> simp

theorem ReadsBack.eq_get_of_mem {job : Job} {id : String}
    {result : Except Failure Observed}
    (readsBack : ReadsBack synchronizer job id state calls result next) :
    ∀ call ∈ calls, ∃ jobId, call = .get jobId := by
  cases readsBack with
  | observed looks => exact looks.eq_get_of_mem
  | vanished looks named => exact looks.eq_get_of_mem
  | failed looks => exact looks.eq_get_of_mem

/-- An accepted job is sent once, before anything is asked for. -/
theorem callsOf_apply_of_isValid (synchronizer : Synchronizer State)
    {job : Job} (valid : job.isValid = true) (state : State) :
    ∃ asked, synchronizer.callsOf (.apply job) state =
        .createOrUpdate (synchronizer.jobId job)
          (job.toDefinition synchronizer.environment synchronizer.now) ::
            asked ∧
      ∀ call ∈ asked, ∃ jobId, call = .get jobId := by
  obtain ⟨calls, answer, next, conducts⟩ :=
    exists_conducts synchronizer state (.apply job)
  rw [conducts.callsOf_eq]
  cases conducts with
  | broken breaks => exact absurd (List.isEmpty_iff.mp valid) breaks
  | refused keeps sent named => exact ⟨[], rfl, by simp⟩
  | applied keeps sent readsBack =>
      exact ⟨_, rfl, readsBack.eq_get_of_mem⟩

end Synchronizer

namespace CommandLine

theorem plan_of_isValid {job : Job} (valid : job.isValid = true)
    (environment : Environment) (now : Instant) (file : String) :
    plan environment now file job =
      .ok (Json.renderIndented
        (job.toDefinition environment now).withoutSecrets.toValue ++ "\n") :=
  if_pos valid

theorem plan_withoutSecrets (environment : Environment) (now : Instant)
    (file : String) (job : Job) :
    plan environment now file job.withoutSecrets =
      plan environment now file job := by
  simp only [plan, job.isValid_withoutSecrets, job.violations_withoutSecrets,
    job.toDefinition_withoutSecrets]

/-- Taking the secrets out of a definition leaves the only one that differs in
them alone and has none.  It is taken for the same jobs, stays as it is when
secrets are taken out again, and is the same for all definitions that differ in
secrets alone.  A plan for an accepted job shows, without secrets, the payload
with which the job is applied over any service, and is the same for all jobs
that differ in secrets alone. -/
theorem plan_shows_payload_without_secrets :
    (∀ definition : Definition,
      (∀ other, other = definition.withoutSecrets ↔
        definition.AgreeInPublic other ∧ other.HoldsNoSecret) ∧
      (∀ id, definition.withoutSecrets.toJob id = definition.toJob id) ∧
      definition.withoutSecrets.withoutSecrets = definition.withoutSecrets ∧
      ∀ other, definition.AgreeInPublic other →
        definition.withoutSecrets = other.withoutSecrets) ∧
    (∀ {State : Type} (synchronizer : Synchronizer State) (state : State)
        (file : String) (job : Job), job.isValid = true →
      ∃ payload asked,
        synchronizer.callsOf (.apply job) state =
          .createOrUpdate (synchronizer.jobId job) payload :: asked ∧
        (∀ call ∈ asked, ∃ id, call = .get id) ∧
        plan synchronizer.environment synchronizer.now file job =
          .ok (Json.renderIndented payload.withoutSecrets.toValue ++ "\n")) ∧
    ∀ environment now file (first second : Job),
      first.withoutSecrets = second.withoutSecrets →
        plan environment now file first = plan environment now file second := by
  refine ⟨?_, ?_, ?_⟩
  · intro definition
    refine ⟨fun other => Definition.eq_withoutSecrets_iff,
      fun id => definition.toJob_withoutSecrets id,
      definition.withoutSecrets_withoutSecrets, ?_⟩
    intro other agree
    exact (definition.agreeInPublic_iff_withoutSecrets_eq other).mp agree
  · intro State synchronizer state file job valid
    obtain ⟨asked, sends, gets⟩ :=
      synchronizer.callsOf_apply_of_isValid valid state
    exact ⟨_, asked, sends, gets, plan_of_isValid valid _ _ file⟩
  · intro environment now file first second same
    rw [← plan_withoutSecrets, same, plan_withoutSecrets]

/-- A job whose action is taken with a password. -/
def signed (password : String) : Job where
  name := "report"
  resourceGroup := "group"
  collection := "daily"
  action := some {
    url := "https://host"
    method := "get"
    body := none
    headers := ∅
    credentials := some (.basic { username := "ops", password }) }

theorem isValid_signed (password : String) :
    (signed password).isValid = true := by
  have bare : (signed "").isValid = true :=
    Job.isValid_of_action rfl ⟨Url.isWeb_host, by decide⟩ rfl
      (by decide +kernel)
  rw [← Job.isValid_withoutSecrets]
  exact bare

theorem agreeInPublic_signed (password other : String) :
    ((signed password).toDefinition {} .epoch).AgreeInPublic
      ((signed other).toDefinition {} .epoch) := by
  rw [Definition.agreeInPublic_iff_withoutSecrets_eq]
  rfl

/-- A synchronizer over the emulator. -/
def overState : Synchronizer Directory where
  service := Emulator.service "/state" .epoch
  environment := {}
  subscription := "main"
  now := .epoch

/-- The password with which the job is applied does not show in the plan for
it. -/
theorem plan_shows_payload_without_secrets_signed :
    (∃ payload asked,
      overState.callsOf (.apply (signed "hunter2")) { nameLimit := 255 } =
        .createOrUpdate ⟨"main", "group", "daily", "report"⟩ payload ::
          asked ∧
      plan {} .epoch "report.toml" (signed "hunter2") =
        .ok (Json.renderIndented payload.withoutSecrets.toValue ++ "\n")) ∧
    ((signed "hunter2").toDefinition {} .epoch).withoutSecrets =
      ((signed "swordfish").toDefinition {} .epoch).withoutSecrets ∧
    plan {} .epoch "report.toml" (signed "hunter2") =
      plan {} .epoch "report.toml" (signed "swordfish") := by
  obtain ⟨definitions, payloads, plans⟩ := plan_shows_payload_without_secrets
  refine ⟨?_, ?_, plans {} .epoch "report.toml" _ _ rfl⟩
  · obtain ⟨payload, asked, sends, -, shows⟩ := payloads overState
      { nameLimit := 255 } "report.toml" _ (isValid_signed "hunter2")
    exact ⟨payload, asked, sends, shows⟩
  · exact (definitions _).2.2.2 _ (agreeInPublic_signed _ _)

end CommandLine

end ScheduledJobs
