import Mathlib.Data.List.Forall2
import ScheduledJobs.Proofs.Job.Secrets
import ScheduledJobs.Proofs.Service.Secrets
import ScheduledJobs.Proofs.Synchronizer.Runs

/-!
# Secrets stay with their owner

Two runs of a synchronizer whose jobs differ in secrets alone cannot be told
apart by their answers or by the stores that they leave.
-/

namespace ScheduledJobs

open Definition Emulator

variable (environment : Environment) (name : String) (expiry : Instant)

theorem Credentials.AgreeInPublic.sealed {first second : Credentials}
    (agree : first.AgreeInPublic second) :
    (withDetails name expiry
        (first.toAuthentication environment)).withoutSecrets =
      (withDetails name expiry
        (second.toAuthentication environment)).withoutSecrets := by
  cases agree with
  | basic => rfl
  | certificate sameFingerprint =>
      simp only [Credentials.toAuthentication, withDetails, thumbprint,
        sameFingerprint, Authentication.withoutSecrets]
  | directory => rfl

namespace WebAction.AgreeInPublic

variable {first second : WebAction} (agree : first.AgreeInPublic second)

include agree

theorem sealedRequest :
    Emulator.sealedRequest name expiry (first.toRequest environment) =
      Emulator.sealedRequest name expiry (second.toRequest environment) := by
  have credentials := map_eq_map_of_rel agree.credentials fun agree =>
    Credentials.AgreeInPublic.sealed environment name expiry agree
  simp only [Emulator.sealedRequest, toRequest, Option.map_map,
    Function.comp_def, credentials, agree.url, agree.method, agree.body,
    agree.headers]

theorem sendsCertificate :
    Emulator.sendsCertificate (first.toRequest environment) =
      Emulator.sendsCertificate (second.toRequest environment) := by
  obtain ⟨_, _, _, _, credentials⟩ := first
  obtain ⟨_, _, _, _, others⟩ := second
  obtain ⟨-, -, -, -, rel⟩ := agree
  cases rel with
  | none => rfl
  | some agree => cases agree <;> rfl

theorem errorAction :
    Emulator.sealedErrorAction name expiry {
        kind := some (kindOf first.url)
        request := some (first.toRequest environment) } =
      Emulator.sealedErrorAction name expiry {
        kind := some (kindOf second.url)
        request := some (second.toRequest environment) } := by
  simp only [Emulator.sealedErrorAction, Option.map_some, agree.url,
    agree.sealedRequest environment name expiry]

end WebAction.AgreeInPublic

theorem Job.needsExpiry_toDefinition (now : Instant) (job : Job) :
    Emulator.needsExpiry (job.toDefinition environment now) =
      job.webActions.any fun action =>
        Emulator.sendsCertificate (action.toRequest environment) := by
  rw [needsExpiry_eq_any_requests, requests_toDefinition, List.any_map]
  rfl

namespace Job.AgreeInPublic

variable {first second : Job} (agree : first.AgreeInPublic second)

include agree

theorem sealedAction :
    Emulator.sealedAction name expiry (first.toAction environment) =
      Emulator.sealedAction name expiry (second.toAction environment) := by
  have kind := map_eq_map_of_rel agree.action fun agree =>
    congrArg WebAction.kindOf agree.url
  have request := map_eq_map_of_rel agree.action fun agree =>
    agree.sealedRequest environment name expiry
  have errorAction := map_eq_map_of_rel agree.errorAction fun agree =>
    agree.errorAction environment name expiry
  simp only [Emulator.sealedAction, toAction, Option.map_map,
    Function.comp_def, kind, request, errorAction, agree.retry]

theorem stored (id : JobId) (now : Instant) :
    Emulator.stored id expiry (first.toDefinition environment now) =
      Emulator.stored id expiry (second.toDefinition environment now) := by
  simp only [Emulator.stored, storedProperties, toDefinition,
    Option.getD_some, Option.map_some,
    agree.sealedAction environment id.name expiry, agree.startTime,
    agree.recurrence, agree.state]

theorem needsExpiry (now : Instant) :
    Emulator.needsExpiry (first.toDefinition environment now) =
      Emulator.needsExpiry (second.toDefinition environment now) := by
  have sends (action? other? : Option WebAction)
      (rel : Option.Rel WebAction.AgreeInPublic action? other?) :
      (action?.toList.any fun action =>
          Emulator.sendsCertificate (action.toRequest environment)) =
        other?.toList.any fun action =>
          Emulator.sendsCertificate (action.toRequest environment) := by
    cases rel with
    | none => rfl
    | some agree =>
        simp only [Option.toList_some, List.any_cons, List.any_nil,
          agree.sendsCertificate environment]
  rw [needsExpiry_toDefinition, needsExpiry_toDefinition, webActions,
    webActions, List.any_append,
    List.any_append, sends _ _ agree.action, sends _ _ agree.errorAction]

theorem createOrUpdate (root : String) (now stamp : Instant) (id : JobId)
    (directory : Directory) :
    Emulator.createOrUpdate root stamp id
        (first.toDefinition environment now) directory =
      Emulator.createOrUpdate root stamp id
        (second.toDefinition environment now) directory := by
  simp only [Emulator.createOrUpdate, agree.needsExpiry environment now,
    agree.stored environment]

end Job.AgreeInPublic

namespace Synchronizer

/-- Whether two tasks are the same, but for the secrets of a job. -/
inductive Task.AgreeInPublic : Task → Task → Prop where
  | apply {first second : Job} (agree : first.AgreeInPublic second) :
      AgreeInPublic (.apply first) (.apply second)
  | read (id : String) : AgreeInPublic (.read id) (.read id)
  | delete (id : String) : AgreeInPublic (.delete id) (.delete id)

/-- Whether two tasks are the same at the same times, but for the secrets of a
job. -/
structure TimedTask.AgreeInPublic (first second : TimedTask) : Prop where
  now : first.now = second.now
  stamp : first.stamp = second.stamp
  task : first.task.AgreeInPublic second.task

variable {root subscription : String} {environment : Environment}

theorem apply_eq_of_agreeInPublic {first second : Job}
    (agree : first.AgreeInPublic second) (now stamp : Instant)
    (directory : Directory) :
    (overEmulator root environment subscription now stamp).apply first
        directory =
      (overEmulator root environment subscription now stamp).apply second
        directory := by
  have isValid : first.isValid = second.isValid :=
    congrArg List.isEmpty agree.violations
  have jobId := agree.samePlace.idIn_eq subscription
  have sent := agree.createOrUpdate environment root now stamp
    (second.idIn subscription) directory
  have environment_eq :
      (overEmulator root environment subscription now stamp).environment =
        environment := rfl
  have now_eq :
      (overEmulator root environment subscription now stamp).now = now := rfl
  simp only [apply, isValid, jobId_overEmulator, jobId, environment_eq,
    now_eq, createOrUpdate_overEmulator, sent, agree.name, agree.violations]

theorem performAt_eq_of_agreeInPublic {first second : TimedTask}
    (agree : first.AgreeInPublic second) (directory : Directory) :
    performAt root environment subscription first directory =
      performAt root environment subscription second directory := by
  obtain ⟨now, stamp, task⟩ := first
  obtain ⟨_, _, other⟩ := second
  obtain ⟨rfl, rfl, tasks⟩ := agree
  cases tasks with
  | apply agree =>
      simp only [performAt, perform, apply_eq_of_agreeInPublic agree]
  | read id => rfl
  | delete id => rfl

/-- Runs whose tasks differ in secrets alone have the same answers and leave
the same store. -/
theorem run_eq_of_agreeInPublic {first second : List TimedTask}
    (agree : List.Forall₂ TimedTask.AgreeInPublic first second)
    (directory : Directory) :
    run root environment subscription first directory =
      run root environment subscription second directory := by
  induction agree generalizing directory with
  | nil => rfl
  | cons agreeFirst _ ih =>
      simp only [run, performAt_eq_of_agreeInPublic agreeFirst, ih]

/-- Secrets show neither in the answers and stores of runs, nor in what the
emulator stores and gives back after any calls. -/
theorem keepsSecrets :
    (∀ (root : String) (environment : Environment) (subscription : String)
        (first second : List TimedTask),
      List.Forall₂ TimedTask.AgreeInPublic first second →
        ∀ directory,
          run root environment subscription first directory =
            run root environment subscription second directory) ∧
    ∀ limit directory, Emulator.Reachable limit directory →
      (∀ key octets, Store.get? directory key = some octets →
        ∃ definition : Definition, definition.HoldsNoSecret ∧
          octets = Text.Utf8.encode
            (Document.Json.render definition.toValue)) ∧
      ∀ root id definition next,
        Emulator.get root id directory = (.ok definition, next) →
          definition.HoldsNoSecret := by
  constructor
  · intro root environment subscription first second agree directory
    exact run_eq_of_agreeInPublic agree directory
  · intro limit directory reachable
    have seals := reachable.seals
    exact ⟨seals.values, fun _ _ _ _ got => seals.holdsNoSecret_of_get got⟩

/-- A job with a secret in both of its actions. -/
def guarded (pfx password secret : String) : Job where
  name := "report"
  resourceGroup := "group"
  collection := "daily"
  action := some {
    url := "https://host"
    method := "get"
    body := none
    headers := ∅
    credentials := some (.certificate {
      pfx, password
      thumbprint := none
      expiration := none
      subjectName := none }) }
  errorAction := some {
    url := "https://host"
    method := "post"
    body := none
    headers := ∅
    credentials := some (.directory {
      tenantId := "tenant"
      clientId := "client"
      secret
      audience := none }) }

theorem agreeInPublic_guarded {pfx otherPfx : String}
    (sameFingerprint : Fingerprint.ofOctets (Text.Utf8.encode pfx) =
      Fingerprint.ofOctets (Text.Utf8.encode otherPfx))
    (password other secret another : String) :
    (guarded pfx password secret).AgreeInPublic
      (guarded otherPfx other another) where
  name := rfl
  resourceGroup := rfl
  collection := rfl
  action := .some ⟨rfl, rfl, rfl, rfl,
    .some (.certificate sameFingerprint password other none none none)⟩
  errorAction := .some ⟨rfl, rfl, rfl, rfl,
    .some (.directory "tenant" "client" secret another none)⟩
  retry := rfl
  recurrence := rfl
  startTime := rfl
  state := rfl

/-- Apply a guarded job and read it. -/
def guardedTasks (pfx password secret : String) : List TimedTask := [
  ⟨.epoch, .epoch, .apply (guarded pfx password secret)⟩,
  ⟨.epoch, .epoch, .read ((guarded pfx password secret).idIn "main").text⟩]

theorem agreeInPublic_guardedTasks {pfx otherPfx : String}
    (sameFingerprint : Fingerprint.ofOctets (Text.Utf8.encode pfx) =
      Fingerprint.ofOctets (Text.Utf8.encode otherPfx))
    (password other secret another : String) :
    List.Forall₂ TimedTask.AgreeInPublic (guardedTasks pfx password secret)
      (guardedTasks otherPfx other another) :=
  .cons ⟨rfl, rfl, .apply (agreeInPublic_guarded sameFingerprint password
    other secret another)⟩ (.cons ⟨rfl, rfl, .read _⟩ .nil)

/-- The id under which a guarded job is sent. -/
def guardedId : JobId := ⟨"main", "group", "daily", "report"⟩

/-- The definition that is sent of a guarded job. -/
def guardedDefinition : Definition :=
  (guarded "MIIWCSF2VGRLY6EH" "open" "sesame").toDefinition {} .epoch

/-- Two certificates with one fingerprint cannot be told apart, and the store
that holds the job gives back none of its secrets. -/
theorem keepsSecrets_guarded :
    run "/state" {} "main" (guardedTasks "MIIWCSF2VGRLY6EH" "open" "sesame")
        { nameLimit := 255 } =
      run "/state" {} "main" (guardedTasks "MIIVXQ3OAWOR7SBB" "shut" "door")
        { nameLimit := 255 } ∧
    ∃ definition next,
      Emulator.get "/state" guardedId
          (Emulator.createOrUpdate "/state" .epoch guardedId
            guardedDefinition { nameLimit := 255 }).2 =
        (.ok definition, next) ∧ definition.HoldsNoSecret := by
  have sameFingerprint :
      Fingerprint.ofOctets (Text.Utf8.encode "MIIWCSF2VGRLY6EH") =
        Fingerprint.ofOctets (Text.Utf8.encode "MIIVXQ3OAWOR7SBB") := by
    decide +kernel
  constructor
  · exact keepsSecrets.1 "/state" {} "main"
      (guardedTasks "MIIWCSF2VGRLY6EH" "open" "sesame")
      (guardedTasks "MIIVXQ3OAWOR7SBB" "shut" "door")
      (agreeInPublic_guardedTasks sameFingerprint _ _ _ _) _
  · have fits : Store.Fits { nameLimit := 255 } (Emulator.key guardedId) := by
      decide +kernel
    have canExpire : Emulator.CanExpire .epoch guardedDefinition := by
      decide +kernel
    have canonical : guardedDefinition.IsCanonical :=
      Job.isCanonical_toDefinition _ _ _
    have reachable : Emulator.Reachable 255 { nameLimit := 255 } := .fresh
    have stored :
        (Emulator.createOrUpdate "/state" .epoch guardedId guardedDefinition
          { nameLimit := 255 }).2 =
        Emulator.saved { nameLimit := 255 } guardedId
          (Emulator.storedAt guardedId .epoch guardedDefinition) := by
      rw [Emulator.createOrUpdate_of_fits reachable.seals.noFolder fits
        canExpire]
    have got := Emulator.get_saved fits
      (Emulator.isCanonical_storedAt canonical guardedId .epoch) "/state"
    rw [← stored] at got
    have after := reachable.createOrUpdate "/state" .epoch guardedId
      guardedDefinition
    exact ⟨_, _, got,
      (keepsSecrets.2 255 _ after).2 "/state" guardedId _ _ got⟩

end Synchronizer

end ScheduledJobs
