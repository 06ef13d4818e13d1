import ScheduledJobs.Proofs.Exchange.Returned
import ScheduledJobs.Proofs.Synchronizer.Emulated

/-!
# What the emulator holds of a job

The emulator holds a job under an id when what it stores there says that
job.
-/

namespace ScheduledJobs

open Document Text

namespace Emulator

/-- Whether the store holds a definition under the id that says the job, or
nothing when there is no job. -/
def Holds (directory : Directory) (id : JobId) : Option Job → Prop
  | none => Store.get? directory (key id) = none
  | some job => ∃ definition : Definition, definition.IsCanonical ∧
      Store.get? directory (key id) =
        some (Utf8.encode (Json.render definition.toValue)) ∧
      definition.toJob id = job

variable {directory other : Directory} {id : JobId} {job? : Option Job}

theorem Holds.congr (holds : Holds directory id job?)
    (same : Store.get? other (key id) = Store.get? directory (key id)) :
    Holds other id job? := by
  cases job? with
  | none => exact same.trans holds
  | some job =>
      obtain ⟨definition, canonical, found, isSaid⟩ := holds
      exact ⟨definition, canonical, same.trans found, isSaid⟩

theorem holds_fresh (limit : Nat) (id : JobId) :
    Holds { nameLimit := limit } id none := Store.get?_fresh limit _

theorem holds_saved (fits : Store.Fits directory (key id))
    {definition : Definition} (canonical : definition.IsCanonical) :
    Holds (saved directory id definition) id (some (definition.toJob id)) :=
  ⟨definition, canonical, Store.get?_written_self fits _, rfl⟩

theorem holds_delete (directory : Directory) (id : JobId) :
    Holds (Store.delete directory (key id)).2 id none :=
  Store.get?_delete_self directory (key id)

theorem get_of_holds_none (holds : Holds directory id none) (root : String) :
    get root id directory = (.error .notFound, directory) :=
  get_eq_notFound holds root

theorem get_of_holds_some {job : Job} (holds : Holds directory id (some job))
    (root : String) :
    ∃ definition : Definition, definition.toJob id = job ∧
      get root id directory = (.ok definition, directory) := by
  obtain ⟨definition, canonical, found, isSaid⟩ := holds
  have loaded := load_of_isCanonical canonical found
  exact ⟨definition, isSaid, get_of_load loaded root⟩

end Emulator

namespace Synchronizer

variable {root subscription : String} {environment : Environment}
  {now stamp : Instant} {directory : Directory}

/-- What is read of a job, under an id that denotes it. -/
def readingOf (text : String) : Option Job → Reading
  | some job => .found { id := text, job }
  | none => .gone

theorem read_overEmulator_of_holds {text : String} {found : JobId}
    (denoted : JobId.ofText text = .ok found) {job? : Option Job}
    (holds : Emulator.Holds directory found job?) :
    (overEmulator root environment subscription now stamp).read text
        directory =
      (.ok (readingOf text job?), directory) := by
  cases job? with
  | none =>
      have got := Emulator.get_of_holds_none holds root
      simp only [read, denoted, get_overEmulator, got, readingOf]
  | some job =>
      obtain ⟨definition, isSaid, got⟩ := Emulator.get_of_holds_some holds root
      simp only [read, denoted, get_overEmulator, got, isSaid,
        readingOf]

theorem read_overEmulator_snd (text : String) :
    ((overEmulator root environment subscription now stamp).read text
      directory).2 = directory := by
  cases denoted : JobId.ofText text with
  | error error => simp only [read, denoted]
  | ok found =>
      have kept := Emulator.get_snd root found directory
      cases got : Emulator.get root found directory with
      | mk answer next =>
          rw [got] at kept
          simp only [read, denoted, get_overEmulator, got]
          split <;> simp_all

theorem delete_overEmulator_of_ofText {text : String} {found : JobId}
    (denoted : JobId.ofText text = .ok found) :
    (overEmulator root environment subscription now stamp).delete text
        directory =
      (.ok (), (Store.delete directory (Emulator.key found)).2) := by
  simp only [Synchronizer.delete, denoted, delete_overEmulator,
    Emulator.delete_eq]
  cases (Store.delete directory (Emulator.key found)).1 <;> simp

theorem delete_overEmulator_of_malformed {text : String} {error : JobId.Error}
    (malformed : JobId.ofText text = .error error) :
    (overEmulator root environment subscription now stamp).delete text
        directory =
      (.error (.identifier error), directory) := by
  simp only [Synchronizer.delete, malformed]

/-- Applying a job without slashes either fails and changes nothing, or saves a
definition under its id and answers what the definition says. -/
theorem apply_overEmulator_cases {job : Job} (slashFree : job.IsSlashFree)
    (isSegment : IsSegment subscription) (noFolder : directory.HasNoFolder)
    (root : String) (environment : Environment) (now stamp : Instant) :
    (∃ failure,
      (overEmulator root environment subscription now stamp).apply job
        directory = (.error failure, directory)) ∨
    ∃ definition : Definition, definition.IsCanonical ∧
      definition.HasNoEmptyBody ∧ (job.idIn subscription).HasSegments ∧
      Store.Fits directory (Emulator.key (job.idIn subscription)) ∧
      (overEmulator root environment subscription now stamp).apply job
          directory =
        (.ok {
            id := (job.idIn subscription).text
            job := definition.toJob (job.idIn subscription) },
          Emulator.saved directory (job.idIn subscription) definition) := by
  by_cases accepted : job.isValid = true ∧
      Stores environment subscription now stamp job directory
  · obtain ⟨valid, stores⟩ := accepted
    have segments := Job.hasSegments_idIn (Job.isAccepted_of_isValid valid)
      slashFree isSegment
    have canonical := Emulator.isCanonical_storedAt
      (job.isCanonical_toDefinition environment now)
      (job.idIn subscription) stamp
    have noEmptyBody := Emulator.hasNoEmptyBody_storedAt
      (job.hasNoEmptyBody_toDefinition environment now)
      (job.idIn subscription) stamp
    exact .inr ⟨_, canonical, noEmptyBody, segments, stores.fits,
      apply_overEmulator_of_stores valid noFolder stores segments root⟩
  · exact .inl (apply_overEmulator_of_not_stores accepted root)

end Synchronizer

end ScheduledJobs
