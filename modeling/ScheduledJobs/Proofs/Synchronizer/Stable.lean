import ScheduledJobs.Proofs.Service.Stable
import ScheduledJobs.Proofs.Synchronizer.Answer
import ScheduledJobs.Proofs.Synchronizer.Sent

/-!
# Applying what has been read back

Applying a job that has been read back changes nothing, unless there is a
certificate, which is not given back and so cannot be sent again.
-/

namespace ScheduledJobs.Synchronizer

variable {root subscription : String} {environment : Environment}
  {now stamp : Instant} {job : Job} {directory next : Directory}
  {observed : Observed}

/-- A job that has been applied over any directory has been accepted, saved and
read back. -/
theorem saved_of_apply (isRead : job.IsRead) (slashFree : job.IsSlashFree)
    (isSegment : IsSegment subscription)
    (applied : (overEmulator root environment subscription now stamp).apply job
      directory = (.ok observed, next)) :
    job.isValid = true ∧
      Store.Fits directory (Emulator.key (job.idIn subscription)) ∧
      observed.id = (job.idIn subscription).text ∧
      observed.job = job.observed environment now
        ((stamp.laterByDays? Emulator.certificateDays).getD stamp) ∧
      next = savedOf environment subscription now stamp job directory := by
  by_cases valid : job.isValid = true
  · have isAccepted := Job.isAccepted_of_isValid valid
    have segments := Job.hasSegments_idIn isAccepted slashFree isSegment
    rcases answered : Emulator.createOrUpdate root stamp
        (job.idIn subscription) (job.toDefinition environment now)
        directory with ⟨cause | kept, middle⟩
    · rw [apply_overEmulator_of_createOrUpdate_error valid answered]
        at applied
      cases applied
    · obtain ⟨fits, rfl, rfl⟩ := Emulator.eq_saved_of_createOrUpdate answered
      rw [apply_overEmulator_of_createOrUpdate valid answered fits segments]
        at applied
      obtain ⟨isObserved, rfl⟩ := Prod.mk.inj applied
      obtain rfl := Except.ok.inj isObserved
      exact ⟨valid, fits, rfl, Emulator.toJob_storedAt isRead
        isAccepted.action environment now stamp subscription, rfl⟩
  · rw [apply_of_not_isValid _ valid] at applied
    cases applied

theorem apply_saved_observed (isRead : job.IsRead) (rules : job.KeepsRules)
    (plain : ∀ action ∈ job.webActions, ¬action.UsesCertificate)
    (fits : Store.Fits directory (Emulator.key (job.idIn subscription)))
    (segments : (job.idIn subscription).HasSegments)
    (root : String) (environment other : Environment)
    (now stamp later laterStamp : Instant) :
    let expiry := (stamp.laterByDays? Emulator.certificateDays).getD stamp
    let saved := savedOf environment subscription now stamp job directory
    (overEmulator root other subscription later laterStamp).apply
        (job.observed environment now expiry) saved =
      (.ok {
          id := (job.idIn subscription).text
          job := job.observed environment now expiry }, saved) := by
  intro expiry saved
  let observed := job.observed environment now expiry
  have valid : observed.isValid = true := Job.isValid_iff.mpr
    (Emulator.keepsRules_observed isRead.wellFormed rules environment now
      expiry)
  have canExpire :
      Emulator.CanExpire laterStamp (observed.toDefinition other later) :=
    .inr (Emulator.needsExpiry_toDefinition
      (Emulator.not_usesCertificate_observed plain environment now expiry)
      other later)
  have same : storedOf other subscription later laterStamp observed =
      storedOf environment subscription now stamp job :=
    Emulator.stored_toDefinition_observed isRead.wellFormed rules plain
      environment other now expiry later _ subscription
  have savedAgain :
      savedOf other subscription later laterStamp observed saved = saved := by
    rw [savedOf, same]
    exact Emulator.saved_saved directory _ _ _
  have free : Store.IsFree saved (Emulator.key (job.idIn subscription)) :=
    Emulator.isFree_saved directory _ _
  have savedFits : Store.Fits saved (Emulator.key (job.idIn subscription)) :=
    fits.congr rfl
  have answered :=
    Emulator.createOrUpdate_of_isFree free savedFits canExpire root
  have applied :=
    apply_overEmulator_of_createOrUpdate valid answered savedFits segments
  have sameId : observed.idIn subscription = job.idIn subscription := rfl
  rwa [sameId, same, savedAgain, storedOf,
    Emulator.toJob_storedAt isRead rules.hasAction] at applied

/-- The job that is read back after a job of a job file has been applied is
accepted, and unless there is a certificate, applying it changes nothing,
whatever the clocks tell and the environment is by then. -/
theorem apply_observed {text : String} (declared : Job.ofFile text = .ok job)
    (slashFree : job.IsSlashFree) (isSegment : IsSegment subscription)
    (applied : (overEmulator root environment subscription now stamp).apply job
      directory = (.ok observed, next)) :
    observed.job.isValid = true ∧
      ((∀ action ∈ job.webActions, ¬action.UsesCertificate) →
        ∀ other later laterStamp,
          (overEmulator root other subscription later laterStamp).apply
            observed.job next = (.ok observed, next)) := by
  have isRead := Job.isRead_of_ofFile declared
  obtain ⟨valid, fits, sameId, sameJob, rfl⟩ :=
    saved_of_apply isRead slashFree isSegment applied
  have rules := Job.isValid_iff.mp valid
  have segments := Job.hasSegments_idIn (Job.isAccepted_of_isValid valid)
    slashFree isSegment
  obtain ⟨id, given⟩ := observed
  obtain rfl : id = (job.idIn subscription).text := sameId
  obtain rfl : given = job.observed environment now _ := sameJob
  have observedRules := Emulator.keepsRules_observed isRead.wellFormed rules
    environment now
    ((stamp.laterByDays? Emulator.certificateDays).getD stamp)
  refine ⟨Job.isValid_iff.mpr observedRules, ?_⟩
  intro plain other later laterStamp
  exact apply_saved_observed isRead rules plain fits segments root environment
    other now stamp later laterStamp

/-- A job file with a password and with days in capitals. -/
def backupFile : String :=
  "name = 'backup'\n" ++
  "resource_group_name = 'group'\n" ++
  "job_collection_name = 'daily'\n" ++
  "[action_web]\n" ++
  "url = 'https://host'\n" ++
  "method = 'Get'\n" ++
  "[action_web.authentication_basic]\n" ++
  "username = 'owner'\n" ++
  "password = 'secret'\n" ++
  "[recurrence]\n" ++
  "frequency = 'Week'\n" ++
  "count = 5\n" ++
  "week_days = ['Sunday', 'FRIDAY']\n"

/-- The action of the backup. -/
def backupAction : WebAction where
  url := "https://host"
  method := "Get"
  body := none
  headers := ∅
  credentials := some (.basic { username := "owner", password := "secret" })

theorem keepsRules_backupAction : backupAction.KeepsRules :=
  ⟨Url.isWeb_host, by decide⟩

theorem ofFile_backupFile :
    ∃ job, Job.ofFile backupFile = .ok job ∧ job.name = "backup" ∧
      job.resourceGroup = "group" ∧ job.collection = "daily" ∧
      job.action = some backupAction ∧ job.errorAction = none ∧
      job.structureViolations = [] ∧
      { job with action := none }.fieldViolations = [] := by
  have fields : (Job.ofFile backupFile).toOption.any (fun job =>
      job.name = "backup" ∧ job.resourceGroup = "group" ∧
        job.collection = "daily" ∧ job.action = some backupAction ∧
        job.errorAction = none ∧ job.structureViolations = [] ∧
        { job with action := none }.fieldViolations = []) = true := by
    decide +kernel
  obtain ⟨job, read, found⟩ := exists_of_any_toOption fields
  exact ⟨job, read, of_decide_eq_true found⟩

/-- The backup is applied once more after a year, in another environment. -/
theorem apply_observed_backupFile :
    ∃ job, Job.ofFile backupFile = .ok job ∧
      ∃ observed next,
        (overEmulator "/state" {} "main" .epoch .epoch).apply job ∅ =
          (.ok observed, next) ∧
        observed.job.isValid = true ∧
        (overEmulator "/state" { managementEndpoint := "https://other/" }
            "main" nextYear nextYear).apply observed.job next =
          (.ok observed, next) := by
  obtain ⟨job, declared, name, resourceGroup, collection, action, errorAction,
    structured, others⟩ := ofFile_backupFile
  have valid := Job.isValid_of_action action keepsRules_backupAction structured
    others
  have slashFree : job.IsSlashFree := by
    constructor
    · rw [resourceGroup]; decide
    · rw [collection]; decide
    · rw [name]; decide
  have isSegment : IsSegment "main" := by decide
  have plain : ∀ action ∈ job.webActions, ¬action.UsesCertificate := by
    simp [Job.webActions, action, errorAction, WebAction.UsesCertificate,
      backupAction]
  have fits : Store.Fits ∅ (Emulator.key (job.idIn "main")) := by
    rw [Store.Fits, Emulator.length_key, Job.idIn, name, resourceGroup,
      collection]
    decide +kernel
  have canExpire : Emulator.CanExpire .epoch (job.toDefinition {} .epoch) :=
    .inr (Emulator.needsExpiry_toDefinition plain {} .epoch)
  have segments := Job.hasSegments_idIn (Job.isAccepted_of_isValid valid)
    slashFree isSegment
  have applied := apply_overEmulator_of_stores valid (.fresh 255)
    ⟨fits, canExpire⟩ segments "/state"
  obtain ⟨accepted, again⟩ :=
    apply_observed declared slashFree isSegment applied
  exact ⟨job, declared, _, _, applied, accepted, again plain _ _ _⟩

end ScheduledJobs.Synchronizer
