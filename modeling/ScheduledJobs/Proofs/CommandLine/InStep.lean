import ScheduledJobs.Proofs.CommandLine.Isolation
import ScheduledJobs.Proofs.Synchronizer.Held

/-!
# Records stay in step with the emulator

A command for a job either fails and changes nothing, or it changes the record
of the job and the definition that the emulator holds of it together.
-/

namespace ScheduledJobs

open Document Store Text

/-- The record of a job fits wherever its definition does, since its key is the
shorter one. -/
theorem Job.fits_recordKey {job : Job} {subscription : String}
    {directory : Directory}
    (fits : Fits directory (Emulator.key (job.idIn subscription))) :
    Fits directory (Record.key job.address) := by
  have shorter : (Record.key job.address).length ≤
      (Emulator.key (job.idIn subscription)).length := by
    have spaces : (Utf8.encode "jobs").length ≤
        (Utf8.encode "remote").length := by decide
    have first : (Utf8.encode "/").length ≤
        (Utf8.encode "/resourceGroups/").length := by decide
    have second : (Utf8.encode "/").length ≤
        (Utf8.encode "/jobs/").length := by decide
    unfold Record.key Emulator.key namespaced address JobId.text
    simp only [Utf8.encode_append, List.length_append, idIn]
    omega
  unfold Fits at fits ⊢
  omega

theorem Job.SamePlace.address_eq {first second : Job}
    (same : first.SamePlace second) : first.address = second.address := by
  simp only [address, same.resourceGroup, same.collection, same.name]

namespace CommandLine.Session

/-- Whether the store has both a record and a definition of a job or neither of
them, and the record tells the id of the job and what the definition says. -/
structure InStep (subscription : String) (directory : Directory) (job : Job) :
    Prop where
  together : (get? directory (Record.key job.address)).isSome = true ↔
    (get? directory (Emulator.key (job.idIn subscription))).isSome = true
  agree : (get? directory (Record.key job.address)).isSome = true →
    ∃ definition syncedAt,
      Store.load Definition.read directory
          (Emulator.key (job.idIn subscription)) =
        .ok (some definition) ∧
      Record.load directory job.address =
        .ok (some {
          id := (job.idIn subscription).text
          observed := definition.toJob (job.idIn subscription)
          syncedAt })

/-- How a record comes to be in step: it was written, in a place where it fits,
of what the emulator holds. -/
inductive Tracks (subscription : String) (directory : Directory) (job : Job) :
    Prop where
  | absent
      (noRecord : get? directory (Record.key job.address) = none)
      (holds : Emulator.Holds directory (job.idIn subscription) none)
  | present {observed : Job} {syncedAt : Instant}
      (segments : (job.idIn subscription).HasSegments)
      (fits : Fits directory (Emulator.key (job.idIn subscription)))
      (isRead : observed.IsRead)
      (holds : Emulator.Holds directory (job.idIn subscription)
        (some observed))
      (recorded : get? directory (Record.key job.address) =
        some (Utf8.encode (Json.render (Record.toValue {
          id := (job.idIn subscription).text, observed, syncedAt }))))

section

variable {subscription : String} {directory next : Directory} {job : Job}

theorem Tracks.inStep (tracks : Tracks subscription directory job) :
    InStep subscription directory job := by
  cases tracks with
  | absent noRecord holds =>
      have noDefinition : get? directory
          (Emulator.key (job.idIn subscription)) = none := holds
      constructor <;> simp [noRecord, noDefinition]
  | present segments fits isRead holds recorded =>
      obtain ⟨definition, canonical, found, rfl⟩ := holds
      exact ⟨by simp [recorded, found], fun _ => ⟨definition, _,
        Emulator.load_of_isCanonical canonical found,
        Record.load_of_get? isRead recorded⟩⟩

/-- Whether a job is in step depends on nothing but its place, the values under
its two keys, and the lengths of names. -/
theorem Tracks.congr {other : Job}
    (tracks : Tracks subscription directory job)
    (samePlace : job.SamePlace other)
    (sameLimit : next.nameLimit = directory.nameLimit)
    (sameRecord : get? next (Record.key job.address) =
      get? directory (Record.key job.address))
    (sameDefinition : get? next (Emulator.key (job.idIn subscription)) =
      get? directory (Emulator.key (job.idIn subscription))) :
    Tracks subscription next other := by
  have address := samePlace.address_eq
  have id := samePlace.idIn_eq subscription
  rw [address] at sameRecord
  rw [id] at sameDefinition
  cases tracks with
  | absent noRecord holds =>
      rw [address] at noRecord
      rw [id] at holds
      exact .absent (sameRecord.trans noRecord) (holds.congr sameDefinition)
  | present segments fits isRead holds recorded =>
      rw [address, id] at recorded
      rw [id] at segments fits holds
      exact .present segments (fits.congr sameLimit) isRead
        (holds.congr sameDefinition) (sameRecord.trans recorded)

/-- Whether every job is in step in a store without folders. -/
structure KeepsTrack (subscription : String) (directory : Directory) :
    Prop where
  noFolder : directory.HasNoFolder
  tracks : ∀ job, Tracks subscription directory job

theorem KeepsTrack.fresh (subscription : String) (limit : Nat) :
    KeepsTrack subscription { nameLimit := limit } where
  noFolder := fun _ => nofun
  tracks := fun _ =>
    .absent (get?_fresh limit _) (Emulator.holds_fresh limit _)

/-- Whether a command for a job that ends with the result in the next store
keeps the job in step, changes nothing else, and changes nothing at all when it
fails. -/
structure IsOrderly (subscription : String) (job : Job) (before : Directory)
    (result : Except Failure String) (next : Directory) : Prop where
  noFolder : next.HasNoFolder
  sameLimit : next.nameLimit = before.nameLimit
  tracks : Tracks subscription next job
  others : ∀ key, key ≠ Record.key job.address →
    key ≠ Emulator.key (job.idIn subscription) →
      get? next key = get? before key
  failed : ∀ failure, result = .error failure → next = before

theorem KeepsTrack.isOrderly_self (keeps : KeepsTrack subscription directory)
    (job : Job) (result : Except Failure String) :
    IsOrderly subscription job directory result directory where
  noFolder := keeps.noFolder
  sameLimit := rfl
  tracks := keeps.tracks job
  others := fun _ _ _ => rfl
  failed := fun _ _ => rfl

/-- No other job gets out of step by an orderly command for one without
slashes. -/
theorem IsOrderly.keepsTrack {result : Except Failure String}
    (orderly : IsOrderly subscription job directory result next)
    (keeps : KeepsTrack subscription directory) (slashFree : job.IsSlashFree)
    (isSegment : IsSegment subscription) :
    KeepsTrack subscription next where
  noFolder := orderly.noFolder
  tracks := by
    intro other
    by_cases same : job.SamePlace other
    · exact orderly.tracks.congr same rfl rfl rfl
    · have record : get? next (Record.key other.address) =
          get? directory (Record.key other.address) :=
        orderly.others _ (recordKey_ne slashFree same).symm
          (Emulator.key_ne_recordKey _ _).symm
      have definition : get? next (Emulator.key (other.idIn subscription)) =
          get? directory (Emulator.key (other.idIn subscription)) :=
        orderly.others _ (Emulator.key_ne_recordKey _ _)
          (emulatorKey_ne slashFree same isSegment subscription).symm
      exact (keeps.tracks other).congr ⟨rfl, rfl, rfl⟩ orderly.sameLimit
        record definition

/-- An orderly command for a job without slashes changes no key that belongs to
a job at another address. -/
theorem IsOrderly.get?_of_belongsTo {result : Except Failure String}
    (orderly : IsOrderly subscription job directory result next)
    (slashFree : job.IsSlashFree) (isSegment : IsSegment subscription)
    {other : Job} (different : other.address ≠ job.address)
    {key : List UInt8} (belongs : BelongsTo other key) :
    get? next key = get? directory key := by
  have apart : ¬job.SamePlace other := fun same =>
    different same.address_eq.symm
  apply orderly.others
  · rintro rfl
    exact not_belongsTo_recordKey slashFree apart belongs
  · rintro rfl
    exact not_belongsTo_emulatorKey slashFree apart isSegment belongs

/-- Recording what the emulator holds of a job succeeds wherever its definition
fits. -/
theorem keep_eq (session : Session) (observed : Observed)
    (noFolder : directory.HasNoFolder)
    (fits : Fits directory (Emulator.key (job.idIn subscription))) :
    session.keep job observed directory =
      (.ok (observed.id ++ "\n"), Record.saved directory job.address {
        id := observed.id
        observed := observed.job
        syncedAt := session.recordedAt }) := by
  unfold keep
  simp only [Record.save_of_fits noFolder (Job.fits_recordKey fits)]

theorem isOrderly_saved {before : Directory} {observed : Job}
    (noFolder : directory.HasNoFolder)
    (sameLimit : directory.nameLimit = before.nameLimit)
    (segments : (job.idIn subscription).HasSegments)
    (fits : Fits directory (Emulator.key (job.idIn subscription)))
    (isRead : observed.IsRead)
    (holds : Emulator.Holds directory (job.idIn subscription)
      (some observed))
    (others : ∀ key, key ≠ Emulator.key (job.idIn subscription) →
      get? directory key = get? before key)
    (output : String) (syncedAt : Instant) :
    IsOrderly subscription job before (.ok output)
      (Record.saved directory job.address {
        id := (job.idIn subscription).text, observed, syncedAt }) where
  noFolder := hasNoFolder_written noFolder _ _
  sameLimit := sameLimit
  tracks := .present segments fits isRead
    (holds.congr
      (get?_written_of_ne (Emulator.key_ne_recordKey _ _) directory _))
    (Record.get?_saved_self (Job.fits_recordKey fits) _)
  others := fun key notRecord notDefinition =>
    (get?_written_of_ne notRecord directory _).trans
      (others key notDefinition)
  failed := fun _ => nofun

end

section

variable {settings : Settings} {directory : Directory} {job : Job}

/-- A job that the synchronizer has brought to the emulator is recorded. -/
theorem apply_eq (noFolder : directory.HasNoFolder) {root : String}
    {times : Times} {definition : Definition}
    (fits : Fits directory
      (Emulator.key (job.idIn (subscriptionOf settings))))
    (applied : (Synchronizer.overEmulator root settings.environment
        (subscriptionOf settings) times.now times.stamp).apply job directory =
      (.ok {
          id := (job.idIn (subscriptionOf settings)).text
          job := definition.toJob (job.idIn (subscriptionOf settings)) },
        Emulator.saved directory (job.idIn (subscriptionOf settings))
          definition)) :
    (ofEmulator settings root times).apply job directory =
      (.ok ((job.idIn (subscriptionOf settings)).text ++ "\n"),
        Record.saved
          (Emulator.saved directory (job.idIn (subscriptionOf settings))
            definition)
          job.address {
            id := (job.idIn (subscriptionOf settings)).text
            observed := definition.toJob (job.idIn (subscriptionOf settings))
            syncedAt := times.recordedAt }) := by
  have noFolderSaved : (Emulator.saved directory
      (job.idIn (subscriptionOf settings)) definition).HasNoFolder :=
    hasNoFolder_written noFolder _ _
  have fitsSaved : Fits (Emulator.saved directory
      (job.idIn (subscriptionOf settings)) definition)
        (Emulator.key (job.idIn (subscriptionOf settings))) :=
    fits.congr rfl
  unfold Session.apply
  rw [synchronizer_ofEmulator, applied]
  exact keep_eq _ _ noFolderSaved fitsSaved

/-- Applying an accepted job that the emulator stores succeeds and leaves a
record of it. -/
theorem exists_apply_eq (noFolder : directory.HasNoFolder)
    (slashFree : job.IsSlashFree) (valid : job.isValid = true)
    (isSegment : IsSegment (subscriptionOf settings)) {times : Times}
    (stores : Synchronizer.Stores settings.environment
      (subscriptionOf settings) times.now times.stamp job directory)
    (root : String) :
    ∃ output next,
      (ofEmulator settings root times).apply job directory =
        (.ok output, next) ∧
      (get? next (Record.key job.address)).isSome = true := by
  have segments := Job.hasSegments_idIn (Job.isAccepted_of_isValid valid)
    slashFree isSegment
  have applied := Synchronizer.apply_overEmulator_of_stores valid noFolder
    stores segments root
  have recordFits : Fits (Synchronizer.savedOf settings.environment
      (subscriptionOf settings) times.now times.stamp job directory)
        (Record.key job.address) :=
    (Job.fits_recordKey stores.fits).congr rfl
  exact ⟨_, _, apply_eq noFolder stores.fits applied,
    Option.isSome_iff_exists.mpr ⟨_, Record.get?_saved_self recordFits _⟩⟩

theorem isOrderly_apply
    (keeps : KeepsTrack (subscriptionOf settings) directory)
    (slashFree : job.IsSlashFree)
    (isSegment : IsSegment (subscriptionOf settings)) (root : String)
    (times : Times) :
    let ended := (ofEmulator settings root times).apply job directory
    IsOrderly (subscriptionOf settings) job directory ended.1 ended.2 := by
  rcases Synchronizer.apply_overEmulator_cases slashFree isSegment
      keeps.noFolder root settings.environment times.now times.stamp with
    ⟨failure, failed⟩ | ⟨definition, canonical, noEmptyBody, segments, fits,
      applied⟩
  · unfold Session.apply
    rw [synchronizer_ofEmulator, failed]
    exact keeps.isOrderly_self job _
  · rw [apply_eq keeps.noFolder fits applied]
    exact isOrderly_saved (hasNoFolder_written keeps.noFolder _ _)
      (nameLimit_written directory _ _) segments (fits.congr rfl)
      (Definition.isRead_toJob noEmptyBody _)
      (Emulator.holds_saved fits canonical)
      (fun key different => get?_written_of_ne different directory _) _ _

/-- A job that is in step is read again as it was observed, and its record is
renewed. -/
theorem isOrderly_refresh
    (keeps : KeepsTrack (subscriptionOf settings) directory) (job : Job)
    (root : String) (times : Times) :
    let ended := (ofEmulator settings root times).refresh job directory
    IsOrderly (subscriptionOf settings) job directory ended.1 ended.2 := by
  unfold refresh record
  rw [synchronizer_ofEmulator]
  cases keeps.tracks job with
  | absent noRecord holds =>
      have loaded := Record.load_of_get?_eq_none noRecord
      simp only [loaded, mapError_ok]
      exact keeps.isOrderly_self job _
  | present segments fits isRead holds recorded =>
      have loaded := Record.load_of_get? isRead recorded
      have denoted := JobId.ofText_text segments
      simp only [loaded, mapError_ok,
        Synchronizer.read_overEmulator_of_holds denoted holds,
        Synchronizer.readingOf, keep_eq _ _ keeps.noFolder fits]
      exact isOrderly_saved keeps.noFolder rfl segments fits isRead holds
        (fun _ _ => rfl) _ _

/-- The store without the definition and the record of a job. -/
def without (subscription : String) (job : Job) (directory : Directory) :
    Directory :=
  (Record.forget
    (Store.delete directory (Emulator.key (job.idIn subscription))).2
    job.address).2

theorem get?_without_recordKey (subscription : String) (job : Job)
    (directory : Directory) :
    get? (without subscription job directory) (Record.key job.address) =
      none :=
  get?_delete_self _ _

theorem get?_without_emulatorKey (subscription : String) (job : Job)
    (directory : Directory) :
    get? (without subscription job directory)
      (Emulator.key (job.idIn subscription)) = none :=
  (get?_delete_of_ne (Emulator.key_ne_recordKey _ _) _).trans
    (get?_delete_self directory _)

theorem nameLimit_without (subscription : String) (job : Job)
    (directory : Directory) :
    (without subscription job directory).nameLimit = directory.nameLimit := by
  rw [without, Record.forget, nameLimit_delete, nameLimit_delete]

theorem isOrderly_without (noFolder : directory.HasNoFolder)
    (subscription : String) (job : Job) (output : String) :
    IsOrderly subscription job directory (.ok output)
      (without subscription job directory) where
  noFolder := hasNoFolder_delete (hasNoFolder_delete noFolder _) _
  sameLimit := nameLimit_without subscription job directory
  tracks := .absent (get?_without_recordKey subscription job directory)
    (get?_without_emulatorKey subscription job directory)
  others := fun _ notRecord notDefinition =>
    (get?_delete_of_ne notRecord _).trans
      (get?_delete_of_ne notDefinition directory)
  failed := fun _ => nofun

/-- Destroying a job that is in step succeeds.  Either there was nothing of it,
or all of it is removed. -/
theorem exists_destroy_eq
    (keeps : KeepsTrack (subscriptionOf settings) directory) (job : Job)
    (root : String) (times : Times) :
    ∃ output next,
      (ofEmulator settings root times).destroy job directory =
        (.ok output, next) ∧
      get? next (Record.key job.address) = none ∧
      get? next (Emulator.key (job.idIn (subscriptionOf settings))) = none ∧
      IsOrderly (subscriptionOf settings) job directory (.ok output) next := by
  unfold destroy record
  rw [synchronizer_ofEmulator]
  cases keeps.tracks job with
  | absent noRecord holds =>
      have loaded := Record.load_of_get?_eq_none noRecord
      simp only [loaded, mapError_ok]
      exact ⟨_, _, rfl, noRecord, holds, keeps.isOrderly_self job _⟩
  | present segments fits isRead holds recorded =>
      have loaded := Record.load_of_get? isRead recorded
      have denoted := JobId.ofText_text segments
      simp only [loaded, mapError_ok,
        Synchronizer.delete_overEmulator_of_ofText denoted]
      exact ⟨_, _, rfl, get?_without_recordKey _ job directory,
        get?_without_emulatorKey _ job directory,
        isOrderly_without keeps.noFolder _ job _⟩

end

end CommandLine.Session

end ScheduledJobs
