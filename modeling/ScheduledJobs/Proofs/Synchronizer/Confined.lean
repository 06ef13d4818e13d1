import ScheduledJobs.Proofs.Store.Confined
import ScheduledJobs.Proofs.Store.Record
import ScheduledJobs.Proofs.Synchronizer.Emulated

/-!
# What the synchronizer touches

Sending a job to the emulator touches the key of the id that is sent, and
reading it back touches the key of the id that its written form denotes.
-/

namespace ScheduledJobs

open Store

variable {own : List UInt8 → Prop} {directory : Directory}

namespace Emulator

variable {id : JobId}

theorem confinedAt_createOrUpdate (noFolder : directory.HasNoFolder)
    (owns : own (key id)) (root : String) (now : Instant)
    (definition : Definition) :
    ConfinedAt own (createOrUpdate root now id definition) directory := by
  let expiry? := now.laterByDays? certificateDays
  by_cases beyond : (expiry?.isNone && needsExpiry definition) = true
  · have refused : createOrUpdate root now id definition =
        fun directory => (.error .beyondCalendar, directory) := by
      funext directory
      rw [createOrUpdate, if_pos beyond]
    rw [refused]
    exact .pure _
  · let kept := stored id (expiry?.getD now) definition
    have saves : createOrUpdate root now id definition =
        andThen (fun directory => save directory (key id) kept.toValue)
          fun saved directory =>
            ((saved.mapError (storeError root)).map fun _ => kept,
              directory) := by
      funext directory
      rw [createOrUpdate, if_neg beyond]
      dsimp only [andThen, kept]
      rcases save directory (key id) _ with ⟨_ | _, next⟩ <;> rfl
    rw [saves]
    exact (confinedAt_put noFolder owns _).map noFolder _

theorem get_eq_andThen (root : String) (id : JobId) :
    get root id =
      andThen (fun directory =>
        (load Definition.read directory (key id), directory))
        fun loaded directory => ((match loaded with
          | .ok (some definition) => .ok definition
          | .ok none => .error .notFound
          | .error failure => .error (storeError root failure)),
            directory) := by
  funext directory
  dsimp only [get, andThen]
  rcases load Definition.read directory (key id) with _ | _ | _ <;> rfl

theorem confinedAt_get (noFolder : directory.HasNoFolder)
    (owns : own (key id)) (root : String) :
    ConfinedAt own (get root id) directory := by
  rw [get_eq_andThen]
  exact (confinedAt_load owns _).map noFolder _

theorem delete_eq_andThen (id : JobId) :
    Emulator.delete id =
      andThen (fun directory => Store.delete directory (key id))
        fun found directory => ((match found with
          | true => .ok ()
          | false => .error .notFound), directory) := by
  funext directory
  dsimp only [Emulator.delete, andThen]
  rcases Store.delete directory (key id) with ⟨_ | _, next⟩ <;> rfl

theorem confinedAt_delete (noFolder : directory.HasNoFolder)
    (owns : own (key id)) :
    ConfinedAt own (Emulator.delete id) directory := by
  rw [delete_eq_andThen]
  exact (Store.confinedAt_delete owns).map noFolder _

theorem id_of_createOrUpdate {root : String} {now : Instant}
    {definition stored : Definition} {next : Directory}
    (sent : createOrUpdate root now id definition directory =
      (.ok stored, next)) : stored.id = some id.text := by
  unfold createOrUpdate at sent
  dsimp only at sent
  split at sent
  · cases sent
  · split at sent
    · obtain rfl := Except.ok.inj (congrArg Prod.fst sent)
      rfl
    · cases sent

end Emulator

namespace Synchronizer

section

variable {synchronizer : Synchronizer Directory} {id : String}

theorem read_of_ofText_eq_error {error : JobId.Error}
    (malformed : JobId.ofText id = .error error) :
    synchronizer.read id =
      fun directory => (.error (.identifier error), directory) := by
  funext directory
  simp only [read, malformed]

theorem read_eq_andThen {found : JobId}
    (denoted : JobId.ofText id = .ok found) :
    synchronizer.read id =
      andThen (synchronizer.service.get found)
        fun answer directory => ((match answer with
          | .ok definition =>
              .ok (.found { id, job := definition.toJob found })
          | .error .notFound => .ok .gone
          | .error cause => .error (.ofService .reading found cause)),
            directory) := by
  funext directory
  simp only [read, denoted, andThen]
  rcases synchronizer.service.get found directory with ⟨_ | _, next⟩
  · split <;> simp_all
  · rfl

theorem confinedAt_read (noFolder : directory.HasNoFolder)
    (confined : ∀ found, JobId.ofText id = .ok found →
      ConfinedAt own (synchronizer.service.get found) directory) :
    ConfinedAt own (synchronizer.read id) directory := by
  cases denoted : JobId.ofText id with
  | error error =>
      rw [read_of_ofText_eq_error denoted]
      exact .pure _
  | ok found =>
      rw [read_eq_andThen denoted]
      exact (confined found denoted).map noFolder _

theorem delete_of_ofText_eq_error {error : JobId.Error}
    (malformed : JobId.ofText id = .error error) :
    synchronizer.delete id =
      fun directory => (.error (.identifier error), directory) := by
  funext directory
  simp only [Synchronizer.delete, malformed]

theorem delete_eq_andThen {found : JobId}
    (denoted : JobId.ofText id = .ok found) :
    synchronizer.delete id =
      andThen (synchronizer.service.delete found)
        fun answer directory => ((match answer with
          | .ok () => .ok ()
          | .error .notFound => .ok ()
          | .error cause => .error (.ofService .deleting found cause)),
            directory) := by
  funext directory
  simp only [Synchronizer.delete, denoted, andThen]
  rcases synchronizer.service.delete found directory with ⟨_ | _, next⟩
  · split <;> simp_all
  · rfl

theorem confinedAt_delete (noFolder : directory.HasNoFolder)
    (confined : ∀ found, JobId.ofText id = .ok found →
      ConfinedAt own (synchronizer.service.delete found) directory) :
    ConfinedAt own (synchronizer.delete id) directory := by
  cases denoted : JobId.ofText id with
  | error error =>
      rw [delete_of_ofText_eq_error denoted]
      exact .pure _
  | ok found =>
      rw [delete_eq_andThen denoted]
      exact (confined found denoted).map noFolder _

theorem readBack_eq_andThen (sent : JobId) (stored : Definition) :
    synchronizer.readBack sent stored =
      andThen (synchronizer.read (stored.id.getD sent.text))
        fun reading directory => ((match reading with
          | .ok (.found observed) => .ok observed
          | .ok .gone => .error (.ofService .readingBack sent .notFound)
          | .error failure => .error failure), directory) := by
  funext directory
  dsimp only [readBack, andThen]
  rcases synchronizer.read (stored.id.getD sent.text) directory with
    ⟨_ | _ | _, next⟩ <;> rfl

theorem confinedAt_readBack {sent : JobId} {stored : Definition}
    (noFolder : directory.HasNoFolder)
    (confined : ConfinedAt own
      (synchronizer.read (stored.id.getD sent.text)) directory) :
    ConfinedAt own (synchronizer.readBack sent stored) directory := by
  rw [readBack_eq_andThen]
  exact confined.map noFolder _

theorem apply_eq_andThen {job : Job} (valid : job.isValid = true) :
    synchronizer.apply job =
      andThen (synchronizer.service.createOrUpdate (synchronizer.jobId job)
        (job.toDefinition synchronizer.environment synchronizer.now))
        fun answer => match answer with
          | .ok stored =>
              synchronizer.readBack (synchronizer.jobId job) stored
          | .error cause => fun directory =>
              (.error (.ofService .creatingOrUpdating
                (synchronizer.jobId job) cause), directory) := by
  funext directory
  rw [apply, if_pos valid]
  dsimp only [andThen]
  rcases synchronizer.service.createOrUpdate (synchronizer.jobId job) _
    directory with ⟨_ | _, next⟩ <;> rfl

theorem confinedAt_apply {job : Job} (noFolder : directory.HasNoFolder)
    (sends : ConfinedAt own
      (synchronizer.service.createOrUpdate (synchronizer.jobId job)
        (job.toDefinition synchronizer.environment synchronizer.now))
      directory)
    (reads : ∀ stored next,
      synchronizer.service.createOrUpdate (synchronizer.jobId job)
        (job.toDefinition synchronizer.environment synchronizer.now)
        directory = (.ok stored, next) → next.HasNoFolder →
      ConfinedAt own (synchronizer.read
        (stored.id.getD (synchronizer.jobId job).text)) next) :
    ConfinedAt own (synchronizer.apply job) directory := by
  by_cases valid : job.isValid = true
  · rw [apply_eq_andThen valid]
    apply sends.andThen noFolder
    intro noFolderNext
    cases answered : synchronizer.service.createOrUpdate
        (synchronizer.jobId job)
        (job.toDefinition synchronizer.environment synchronizer.now)
        directory with
    | mk answer next =>
        rw [answered] at noFolderNext
        cases answer with
        | error cause => exact .pure _
        | ok stored =>
            exact confinedAt_readBack noFolderNext
              (reads stored next answered noFolderNext)
  · have refuses : synchronizer.apply job = fun directory =>
        (.error (.invalid job.name job.violations), directory) :=
      funext (apply_of_not_isValid synchronizer valid)
    rw [refuses]
    exact .pure _

end

section

variable {root subscription : String} {environment : Environment}
  {now stamp : Instant}

theorem confinedAt_read_overEmulator {id : String}
    (noFolder : directory.HasNoFolder)
    (owns : ∀ found, JobId.ofText id = .ok found → own (Emulator.key found)) :
    ConfinedAt own
      ((overEmulator root environment subscription now stamp).read id)
      directory := by
  apply confinedAt_read noFolder
  intro found denoted
  rw [get_overEmulator]
  exact Emulator.confinedAt_get noFolder (owns found denoted) root

theorem confinedAt_delete_overEmulator {id : String}
    (noFolder : directory.HasNoFolder)
    (owns : ∀ found, JobId.ofText id = .ok found → own (Emulator.key found)) :
    ConfinedAt own
      ((overEmulator root environment subscription now stamp).delete id)
      directory := by
  apply confinedAt_delete noFolder
  intro found denoted
  rw [delete_overEmulator]
  exact Emulator.confinedAt_delete noFolder (owns found denoted)

/-- Applying a job touches the key of its id, and the key of the id that the
written form of its id denotes. -/
theorem confinedAt_apply_overEmulator {job : Job}
    (noFolder : directory.HasNoFolder)
    (ownsSent : own (Emulator.key (job.idIn subscription)))
    (ownsDenoted : ∀ found, JobId.ofText (job.idIn subscription).text =
      .ok found → own (Emulator.key found)) :
    ConfinedAt own
      ((overEmulator root environment subscription now stamp).apply job)
      directory := by
  apply confinedAt_apply noFolder
  · rw [createOrUpdate_overEmulator, jobId_overEmulator]
    exact Emulator.confinedAt_createOrUpdate noFolder ownsSent root stamp _
  · intro stored next answered noFolderNext
    rw [createOrUpdate_overEmulator, jobId_overEmulator] at answered
    rw [jobId_overEmulator, Emulator.id_of_createOrUpdate answered,
      Option.getD_some]
    exact confinedAt_read_overEmulator noFolderNext ownsDenoted

end

end Synchronizer

end ScheduledJobs
