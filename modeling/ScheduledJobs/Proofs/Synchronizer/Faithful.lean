import ScheduledJobs.Proofs.Job.Url
import ScheduledJobs.Proofs.Synchronizer.Emulated

/-!
# When applying is all or nothing

Whether applying a job can go wrong after the store has changed depends on
nothing but slashes in the place of the job.
-/

namespace ScheduledJobs.Synchronizer

open Text

/-- Whether applying the job to the store is all or nothing: a failure leaves
the value under every key alone, and an answer is about the job itself. -/
def AppliesFaithfully (synchronizer : Synchronizer Directory) (job : Job)
    (directory : Directory) : Prop :=
  match synchronizer.apply job directory with
  | (.ok observed, _) => observed.job.address = job.address
  | (.error _, left) =>
      ∀ key, Store.get? left key = Store.get? directory key

theorem appliesFaithfully_of_ok {synchronizer : Synchronizer Directory}
    {job : Job} {directory next : Directory} {observed : Observed}
    (applied : synchronizer.apply job directory = (.ok observed, next))
    (sameAddress : observed.job.address = job.address) :
    synchronizer.AppliesFaithfully job directory := by
  rw [AppliesFaithfully, applied]
  exact sameAddress

theorem appliesFaithfully_of_error {synchronizer : Synchronizer Directory}
    {job : Job} {directory : Directory} {failure : Failure}
    (applied : synchronizer.apply job directory =
      (.error failure, directory)) :
    synchronizer.AppliesFaithfully job directory := by
  rw [AppliesFaithfully, applied]
  exact fun key => rfl

theorem toJob_address (definition : Definition) (job : Job)
    (subscription : String) :
    (definition.toJob (job.idIn subscription)).address = job.address := by
  unfold Definition.toJob
  split <;> rfl

section

variable {environment : Environment} {subscription : String}
  {now stamp : Instant} {job : Job}

/-- A job that can be read back under its id is applied faithfully. -/
theorem appliesFaithfully_of_slashFree {limit : Nat} {directory : Directory}
    (reachable : Store.Reachable limit directory)
    (isSegment : IsSegment subscription) (valid : job.isValid = true)
    (stores : Stores environment subscription now stamp job directory)
    (slashFree : job.IsSlashFree) (root : String) :
    (overEmulator root environment subscription now stamp).AppliesFaithfully
      job directory := by
  have accepted := Job.isAccepted_of_isValid valid
  have segments := Job.hasSegments_idIn accepted slashFree isSegment
  have applied := apply_overEmulator_of_stores valid reachable.hasNoFolder
    stores segments root
  exact appliesFaithfully_of_ok applied (toJob_address _ job subscription)

/-- A job that is stored, but not found under the id that its written id
denotes, has failed after the fresh store has changed. -/
theorem apply_fresh_of_not_slashFree {limit : Nat}
    (valid : job.isValid = true)
    (stores : Stores environment subscription now stamp job
      { nameLimit := limit })
    (slashed : ¬job.IsSlashFree) (root : String) :
    ∃ failure,
      (overEmulator root environment subscription now stamp).apply job
          { nameLimit := limit } =
        (.error failure,
          savedOf environment subscription now stamp job
            { nameLimit := limit }) := by
  have reachable : Store.Reachable limit { nameLimit := limit } := .fresh
  have noFolder := reachable.hasNoFolder
  rw [apply_overEmulator_eq_readBack valid
    (stores.createOrUpdate_eq noFolder root)]
  have adopted :
      (storedOf environment subscription now stamp job).id.getD
        (job.idIn subscription).text = (job.idIn subscription).text := rfl
  cases denoted : JobId.ofText (job.idIn subscription).text with
  | error error =>
      exact ⟨_, readBack_of_ofText_eq_error (adopted ▸ denoted)⟩
  | ok found =>
      have segments := JobId.hasSegments_of_ofText denoted
      have different : Emulator.key found ≠
          Emulator.key (job.idIn subscription) := by
        intro equal
        have same := Emulator.key_injective segments.isSlashFree equal
        exact slashed (Job.isSlashFree_of_hasSegments (same ▸ segments))
      have missing : Store.get?
          (savedOf environment subscription now stamp job
            { nameLimit := limit })
          (Emulator.key found) = none := by
        rw [savedOf, Emulator.saved, Store.get?_written_of_ne different]
        exact Store.get?_fresh limit _
      exact ⟨_, readBack_of_get_eq_notFound (adopted ▸ denoted)
        (Emulator.get_eq_notFound missing root)⟩

/-- The definition that has been written stays behind. -/
theorem not_appliesFaithfully_fresh {limit : Nat} (valid : job.isValid = true)
    (stores : Stores environment subscription now stamp job
      { nameLimit := limit })
    (slashed : ¬job.IsSlashFree) (root : String) :
    ¬(overEmulator root environment subscription now stamp).AppliesFaithfully
      job { nameLimit := limit } := by
  obtain ⟨failure, applied⟩ :=
    apply_fresh_of_not_slashFree valid stores slashed root
  intro faithful
  rw [AppliesFaithfully, applied] at faithful
  have kept := faithful (Emulator.key (job.idIn subscription))
  rw [savedOf, Emulator.saved, Store.get?_written_self stores.fits,
    Store.get?_fresh] at kept
  cases kept

end

/-- Applying a job is all or nothing in every reachable store exactly when the
job is not stored at all or its place is given without slashes, whatever the two
clocks tell. -/
theorem appliesFaithfully_iff (limit : Nat) (root : String)
    (environment : Environment) {subscription : String}
    (isSegment : IsSegment subscription) (now stamp : Instant) (job : Job) :
    (∀ directory, Store.Reachable limit directory →
      (overEmulator root environment subscription now stamp).AppliesFaithfully
        job directory) ↔
    (job.isValid = true →
      Stores environment subscription now stamp job { nameLimit := limit } →
      job.IsSlashFree) := by
  constructor
  · intro faithful valid stores
    apply Classical.byContradiction
    intro slashed
    exact not_appliesFaithfully_fresh valid stores slashed root
      (faithful _ .fresh)
  · intro slashFree directory reachable
    by_cases stored : job.isValid = true ∧
        Stores environment subscription now stamp job directory
    · obtain ⟨valid, stores⟩ := stored
      have onFresh : Stores environment subscription now stamp job
          { nameLimit := limit } :=
        ⟨reachable.nameLimit ▸ stores.fits, stores.canExpire⟩
      exact appliesFaithfully_of_slashFree reachable isSegment valid stores
        (slashFree valid onFresh) root
    · obtain ⟨failure, applied⟩ :=
        apply_overEmulator_of_not_stores stored root
      exact appliesFaithfully_of_error applied

/-- A job without slashes is applied faithfully in every store. -/
theorem appliesFaithfully_visit :
    IsSegment "sub-1" ∧
    ∀ directory, Store.Reachable 255 directory →
      (overEmulator "/state" {} "sub-1" .epoch .epoch).AppliesFaithfully
        (.visit "group" "daily" "report") directory :=
  have isSegment : IsSegment "sub-1" := ⟨by decide, by decide⟩
  ⟨isSegment,
    (appliesFaithfully_iff 255 "/state" {} isSegment .epoch .epoch
      (.visit "group" "daily" "report")).mpr
        fun _ _ => ⟨by decide, by decide, by decide⟩⟩

/-- A resource group with a slash lets an accepted job fail after the store has
changed. -/
theorem not_appliesFaithfully_visit :
    ¬(overEmulator "/state" {} "sub-1" .epoch .epoch).AppliesFaithfully
      (.visit "group/east" "daily" "report") { nameLimit := 255 } := by
  have valid : (Job.visit "group/east" "daily" "report").isValid = true :=
    Job.isValid_visit (by decide) (by decide) (by decide)
  have stores : Stores {} "sub-1" .epoch .epoch
      (.visit "group/east" "daily" "report") { nameLimit := 255 } :=
    ⟨by decide +kernel, by decide +kernel⟩
  have slashed : ¬(Job.visit "group/east" "daily" "report").IsSlashFree :=
    fun slashFree => slashFree.resourceGroup (by decide)
  exact not_appliesFaithfully_fresh valid stores slashed "/state"

end ScheduledJobs.Synchronizer
