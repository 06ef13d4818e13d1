import ScheduledJobs.Proofs.Exchange.Settled
import ScheduledJobs.Proofs.Job.Validation
import ScheduledJobs.Proofs.Service.Emulator
import ScheduledJobs.Synchronizer

/-!
# Bringing the emulator in line with jobs

A job that is accepted, and whose id denotes itself, is stored and read back.
-/

namespace ScheduledJobs

open Definition

theorem WebAction.isCanonical_kindOf (url : String) :
    (WebAction.kindOf url).IsCanonical := by
  unfold WebAction.kindOf
  split
  · exact (by decide : ActionKind.ofName "Https" = .https)
  · exact (by decide : ActionKind.ofName "Http" = .http)

theorem Retry.isCanonical_toPolicy (retry : Retry) :
    retry.toPolicy.IsCanonical := by
  intro kind isKind
  cases retry with
  | never =>
      obtain rfl := Option.some.inj isKind
      exact (by decide : RetryKind.ofName "None" = .never)
  | fixed retry =>
      obtain rfl := Option.some.inj isKind
      exact (by decide : RetryKind.ofName "Fixed" = .fixed)

theorem Job.isCanonical_toAction (environment : Environment) (job : Job) :
    (job.toAction environment).IsCanonical where
  kind := by
    intro kind isKind
    obtain ⟨action, -, rfl⟩ := Option.map_eq_some_iff.mp isKind
    exact WebAction.isCanonical_kindOf action.url
  retryPolicy := by
    intro policy isPolicy
    obtain rfl := Option.some.inj isPolicy
    exact job.retry.isCanonical_toPolicy
  errorAction := by
    intro error isError kind isKind
    obtain ⟨action, -, rfl⟩ := Option.map_eq_some_iff.mp isError
    obtain rfl := Option.some.inj isKind
    exact WebAction.isCanonical_kindOf action.url

theorem Job.isCanonical_toDefinition (environment : Environment)
    (now : Instant) (job : Job) :
    (job.toDefinition environment now).IsCanonical := by
  intro properties isGiven action isAction
  obtain rfl := Option.some.inj isGiven
  obtain rfl := Option.some.inj isAction
  exact job.isCanonical_toAction environment

namespace Synchronizer

section

variable {State : Type} (synchronizer : Synchronizer State) {job : Job}
  {state next : State}

theorem apply_of_not_isValid (invalid : ¬job.isValid = true) (state : State) :
    synchronizer.apply job state =
      (.error (.invalid job.name job.violations), state) := by
  rw [apply, if_neg invalid]

theorem apply_of_createOrUpdate_error (valid : job.isValid = true)
    {cause : Service.Error}
    (refused : synchronizer.service.createOrUpdate (synchronizer.jobId job)
      (job.toDefinition synchronizer.environment synchronizer.now) state =
        (.error cause, next)) :
    synchronizer.apply job state =
      (.error (.ofService .creatingOrUpdating (synchronizer.jobId job) cause),
        next) := by
  simp only [apply, if_pos valid, refused]

theorem apply_of_createOrUpdate_ok (valid : job.isValid = true)
    {stored : Definition}
    (accepted : synchronizer.service.createOrUpdate (synchronizer.jobId job)
      (job.toDefinition synchronizer.environment synchronizer.now) state =
        (.ok stored, next)) :
    synchronizer.apply job state =
      synchronizer.readBack (synchronizer.jobId job) stored next := by
  simp only [apply, if_pos valid, accepted]

end

/-- The synchronizer that sends jobs to the emulator over a store, when its own
clock tells the time `now` and that of the emulator the time `stamp`. -/
def overEmulator (root : String) (environment : Environment)
    (subscription : String) (now stamp : Instant) : Synchronizer Directory where
  service := Emulator.service root stamp
  environment := environment
  subscription := subscription
  now := now

/-- Whether the emulator stores the definition of the job: its key fits, and its
certificates can be given a date. -/
structure Stores (environment : Environment) (subscription : String)
    (now stamp : Instant) (job : Job) (directory : Directory) : Prop where
  fits : Store.Fits directory (Emulator.key (job.idIn subscription))
  canExpire : Emulator.CanExpire stamp (job.toDefinition environment now)

/-- The definition that the emulator stores of a job. -/
def storedOf (environment : Environment) (subscription : String)
    (now stamp : Instant) (job : Job) : Definition :=
  Emulator.storedAt (job.idIn subscription) stamp
    (job.toDefinition environment now)

/-- The store after the definition of a job has been saved. -/
def savedOf (environment : Environment) (subscription : String)
    (now stamp : Instant) (job : Job) (directory : Directory) : Directory :=
  Emulator.saved directory (job.idIn subscription)
    (storedOf environment subscription now stamp job)

variable {root subscription : String} {environment : Environment}
  {now stamp : Instant} {job : Job} {directory : Directory}

theorem jobId_overEmulator :
    (overEmulator root environment subscription now stamp).jobId job =
      job.idIn subscription := rfl

theorem createOrUpdate_overEmulator :
    (overEmulator root environment subscription
        now stamp).service.createOrUpdate =
      Emulator.createOrUpdate root stamp := by
  rw [overEmulator, Emulator.service]

theorem get_overEmulator :
    (overEmulator root environment subscription now stamp).service.get =
      Emulator.get root := by
  rw [overEmulator, Emulator.service]

theorem delete_overEmulator :
    (overEmulator root environment subscription now stamp).service.delete =
      Emulator.delete := by
  rw [overEmulator, Emulator.service]

theorem Stores.createOrUpdate_eq
    (stores : Stores environment subscription now stamp job directory)
    (noFolder : directory.HasNoFolder) (root : String) :
    Emulator.createOrUpdate root stamp (job.idIn subscription)
        (job.toDefinition environment now) directory =
      (.ok (storedOf environment subscription now stamp job),
        savedOf environment subscription now stamp job directory) :=
  Emulator.createOrUpdate_of_fits noFolder stores.fits stores.canExpire root

theorem apply_overEmulator_of_createOrUpdate_error (valid : job.isValid = true)
    {root : String} {cause : Service.Error} {next : Directory}
    (answered : Emulator.createOrUpdate root stamp (job.idIn subscription)
      (job.toDefinition environment now) directory = (.error cause, next)) :
    (overEmulator root environment subscription now stamp).apply job
        directory =
      (.error (.ofService .creatingOrUpdating (job.idIn subscription) cause),
        next) :=
  apply_of_createOrUpdate_error _ valid
    (by rw [createOrUpdate_overEmulator]; exact answered)

theorem apply_overEmulator_eq_readBack (valid : job.isValid = true)
    {root : String}
    (answered : Emulator.createOrUpdate root stamp (job.idIn subscription)
      (job.toDefinition environment now) directory =
        (.ok (storedOf environment subscription now stamp job),
          savedOf environment subscription now stamp job directory)) :
    (overEmulator root environment subscription now stamp).apply job
        directory =
      (overEmulator root environment subscription now stamp).readBack
        (job.idIn subscription)
        (storedOf environment subscription now stamp job)
        (savedOf environment subscription now stamp job directory) :=
  apply_of_createOrUpdate_ok _ valid
    (by rw [createOrUpdate_overEmulator]; exact answered)

theorem id_storedOf (environment : Environment) (subscription : String)
    (now stamp : Instant) (job : Job) :
    (storedOf environment subscription now stamp job).id =
      some (job.idIn subscription).text := rfl

theorem readBack_of_get_eq_notFound {sent found : JobId} {stored : Definition}
    (denoted : JobId.ofText (stored.id.getD sent.text) = .ok found)
    (missing : Emulator.get root found directory =
      (.error .notFound, directory)) :
    (overEmulator root environment subscription now stamp).readBack sent stored
        directory =
      (.error (.ofService .readingBack sent .notFound), directory) := by
  simp only [readBack, read, denoted, get_overEmulator, missing]

theorem readBack_of_ofText_eq_error {sent : JobId} {stored : Definition}
    {error : JobId.Error}
    (malformed : JobId.ofText (stored.id.getD sent.text) = .error error) :
    (overEmulator root environment subscription now stamp).readBack sent stored
        directory =
      (.error (.identifier error), directory) := by
  simp only [readBack, read, malformed]

/-- A job that has been saved is read back, when the parts of its id are
segments. -/
theorem apply_overEmulator_of_createOrUpdate (valid : job.isValid = true)
    {root : String}
    (answered : Emulator.createOrUpdate root stamp (job.idIn subscription)
      (job.toDefinition environment now) directory =
        (.ok (storedOf environment subscription now stamp job),
          savedOf environment subscription now stamp job directory))
    (fits : Store.Fits directory (Emulator.key (job.idIn subscription)))
    (segments : (job.idIn subscription).HasSegments) :
    (overEmulator root environment subscription now stamp).apply job
        directory =
      (.ok {
          id := (job.idIn subscription).text
          job := (storedOf environment subscription now stamp job).toJob
            (job.idIn subscription) },
        savedOf environment subscription now stamp job directory) := by
  have denoted := JobId.ofText_text segments
  have got : Emulator.get root (job.idIn subscription)
      (savedOf environment subscription now stamp job directory) =
        (.ok (storedOf environment subscription now stamp job),
          savedOf environment subscription now stamp job directory) :=
    Emulator.get_saved fits
      (Emulator.isCanonical_storedAt
        (job.isCanonical_toDefinition environment now)
        (job.idIn subscription) stamp) root
  rw [apply_overEmulator_eq_readBack valid answered]
  simp only [readBack, read, id_storedOf, Option.getD_some, denoted,
    get_overEmulator, got]

theorem apply_overEmulator_of_stores (valid : job.isValid = true)
    (noFolder : directory.HasNoFolder)
    (stores : Stores environment subscription now stamp job directory)
    (segments : (job.idIn subscription).HasSegments) (root : String) :
    (overEmulator root environment subscription now stamp).apply job
        directory =
      (.ok {
          id := (job.idIn subscription).text
          job := (storedOf environment subscription now stamp job).toJob
            (job.idIn subscription) },
        savedOf environment subscription now stamp job directory) :=
  apply_overEmulator_of_createOrUpdate valid
    (stores.createOrUpdate_eq noFolder root) stores.fits segments

/-- A job that is not accepted, or that the emulator refuses, changes
nothing. -/
theorem apply_overEmulator_of_not_stores
    (refused : ¬(job.isValid = true ∧
      Stores environment subscription now stamp job directory))
    (root : String) :
    ∃ failure, (overEmulator root environment subscription now stamp).apply
      job directory = (.error failure, directory) := by
  by_cases valid : job.isValid = true
  · have notBoth : ¬(Store.Fits directory
        (Emulator.key (job.idIn subscription)) ∧
          Emulator.CanExpire stamp (job.toDefinition environment now)) := by
      rintro ⟨fits, canExpire⟩
      exact refused ⟨valid, fits, canExpire⟩
    obtain ⟨error, answered⟩ :=
      Emulator.createOrUpdate_of_not_fits notBoth root
    exact ⟨_, apply_overEmulator_of_createOrUpdate_error valid answered⟩
  · exact ⟨_, apply_of_not_isValid _ valid directory⟩

end Synchronizer

end ScheduledJobs
