import ScheduledJobs.Proofs.CommandLine.Confined

/-! # Records tell ids of their jobs -/

namespace ScheduledJobs

open Document Store Text

namespace Synchronizer

variable {State : Type} {synchronizer : Synchronizer State}
  {state : State} {observed : Observed}

theorem id_of_read {id : String}
    (found : (synchronizer.read id state).1 = .ok (.found observed)) :
    observed.id = id := by
  unfold read at found
  split at found
  · cases found
  · split at found
    · obtain rfl := Reading.found.inj (Except.ok.inj found)
      rfl
    · cases found
    · cases found

theorem id_of_readBack {sent : JobId} {stored : Definition}
    (readBack : (synchronizer.readBack sent stored state).1 = .ok observed) :
    observed.id = stored.id.getD sent.text := by
  unfold Synchronizer.readBack at readBack
  split at readBack
  · next found next reads =>
      obtain rfl := Except.ok.inj readBack
      exact id_of_read (congrArg Prod.fst reads)
  · cases readBack
  · cases readBack

theorem id_of_apply_overEmulator {root subscription : String}
    {environment : Environment} {now stamp : Instant} {job : Job}
    {directory : Directory}
    (applied : ((overEmulator root environment subscription now stamp).apply
      job directory).1 = .ok observed) :
    observed.id = (job.idIn subscription).text := by
  unfold apply at applied
  split at applied
  · rw [createOrUpdate_overEmulator, jobId_overEmulator] at applied
    dsimp only at applied
    split at applied
    · cases applied
    · next stored next answered =>
        rw [id_of_readBack applied, Emulator.id_of_createOrUpdate answered,
          Option.getD_some]
  · cases applied

end Synchronizer

namespace CommandLine.Session

/-- Whether the text is the written form of an id of the job at the address. -/
def IsIdAt (address id : String) : Prop :=
  ∃ (job : Job) (subscription : String), IsSegment subscription ∧
    job.address = address ∧ id = (job.idIn subscription).text

/-- Whether every record that can be read tells an id of the job at whose
address it is. -/
def KeepsIds (directory : Directory) : Prop :=
  ∀ address record, Record.load directory address = .ok (some record) →
    IsIdAt address record.id

variable {directory : Directory} {job : Job}

theorem keepsIds_fresh (limit : Nat) : KeepsIds { nameLimit := limit } := by
  intro address record loaded
  rw [Record.load_of_get?_eq_none (get?_fresh limit _)] at loaded
  cases loaded

theorem KeepsIds.of_get?_eq {next : Directory} (keeps : KeepsIds directory)
    (same : ∀ address, get? next (Record.key address) =
      get? directory (Record.key address)) : KeepsIds next := by
  intro address record loaded
  rw [Record.load_congr (same address)] at loaded
  exact keeps address record loaded

theorem KeepsIds.keep (keeps : KeepsIds directory)
    (noFolder : directory.HasNoFolder) (session : Session)
    {observed : Observed} (isId : IsIdAt job.address observed.id) :
    KeepsIds (session.keep job observed directory).2 := by
  let saved : Record :=
    { id := observed.id, observed := observed.job,
      syncedAt := session.recordedAt }
  have left : (session.keep job observed directory).2 =
      (saved.save directory job.address).2 := by
    dsimp only [Session.keep, saved]
    split
    · next written isWritten => rw [isWritten]
    · next failure left isLeft => rw [isLeft]
  rw [left]
  intro address record loaded
  rcases Record.id_of_load_save noFolder loaded with ⟨rfl, sameId⟩ | before
  · rw [sameId]
    exact isId
  · exact keeps address record before

theorem KeepsIds.forget (keeps : KeepsIds directory) (address : String) :
    KeepsIds (Record.forget directory address).2 :=
  fun other record loaded =>
    keeps other record (Record.load_of_load_forget loaded)

/-- Whether the key is one of a definition. -/
def IsEmulatorKey (key : List UInt8) : Prop :=
  ∃ id, key = Emulator.key id

theorem isEmulatorKey (id : JobId) : IsEmulatorKey (Emulator.key id) :=
  ⟨id, rfl⟩

theorem KeepsIds.of_confinedAt {α : Type} (keeps : KeepsIds directory)
    {operation : Directory → α × Directory}
    (confined : ConfinedAt IsEmulatorKey operation directory) :
    KeepsIds (operation directory).2 := by
  apply keeps.of_get?_eq
  intro address
  apply confined.keeps
  rintro ⟨id, isKey⟩
  exact Emulator.key_ne_recordKey id address isKey.symm

section

variable {session : Session}

theorem KeepsIds.apply (keeps : KeepsIds directory)
    (noFolder : directory.HasNoFolder)
    (confined : ConfinedAt IsEmulatorKey (session.synchronizer.apply job)
      directory)
    (isId : ∀ observed,
      (session.synchronizer.apply job directory).1 = .ok observed →
        IsIdAt job.address observed.id) :
    KeepsIds (session.apply job directory).2 := by
  have keepsNext := keeps.of_confinedAt confined
  have noFolderNext := confined.hasNoFolder noFolder
  unfold Session.apply
  split
  · next observed next applied =>
      rw [applied] at keepsNext noFolderNext
      exact keepsNext.keep noFolderNext session
        (isId observed (congrArg Prod.fst applied))
  · next failure next applied =>
      rw [applied] at keepsNext
      exact keepsNext

theorem KeepsIds.refresh (keeps : KeepsIds directory)
    (noFolder : directory.HasNoFolder)
    (confined : ∀ id, ConfinedAt IsEmulatorKey
      (session.synchronizer.read id) directory) :
    KeepsIds (session.refresh job directory).2 := by
  unfold Session.refresh Session.record
  cases loaded : Record.load directory job.address with
  | error failure => exact keeps
  | ok found =>
      cases found with
      | none => exact keeps
      | some record =>
          have keepsNext := keeps.of_confinedAt (confined record.id)
          have noFolderNext := (confined record.id).hasNoFolder noFolder
          have isId := keeps job.address record loaded
          dsimp only [Except.mapError]
          split
          · next observed next reads =>
              rw [reads] at keepsNext noFolderNext
              have sameId :=
                Synchronizer.id_of_read (congrArg Prod.fst reads)
              exact keepsNext.keep noFolderNext session (sameId ▸ isId)
          · next next reads =>
              rw [reads] at keepsNext
              dsimp only
              exact keepsNext.forget job.address
          · next failure next reads =>
              rw [reads] at keepsNext
              exact keepsNext

theorem KeepsIds.destroy (keeps : KeepsIds directory)
    (confined : ∀ id, ConfinedAt IsEmulatorKey
      (session.synchronizer.delete id) directory) :
    KeepsIds (session.destroy job directory).2 := by
  unfold Session.destroy Session.record
  cases loaded : Record.load directory job.address with
  | error failure => exact keeps
  | ok found =>
      cases found with
      | none => exact keeps
      | some record =>
          have keepsNext := keeps.of_confinedAt (confined record.id)
          dsimp only [Except.mapError]
          split
          · next next deletes =>
              rw [deletes] at keepsNext
              dsimp only
              exact keepsNext.forget job.address
          · next failure next deletes =>
              rw [deletes] at keepsNext
              exact keepsNext

end

/-- The subscription of a session is a segment when the one that is set has no
slashes: for an empty one there is another. -/
theorem isSegment_subscriptionOf {settings : Settings}
    (noSlash : '/' ∉ settings.subscription.toList) :
    IsSegment (subscriptionOf settings) := by
  unfold subscriptionOf
  split
  · exact ⟨by decide, by decide⟩
  · next given => exact ⟨by simpa using given, noSlash⟩

theorem keepsIds_perform (keeps : KeepsIds directory)
    (noFolder : directory.HasNoFolder) {settings : Settings}
    (noSlash : '/' ∉ settings.subscription.toList) (root : String)
    (times : Times) (change : Change) (job : Job) :
    KeepsIds ((ofEmulator settings root times).perform change job
      directory).2 := by
  have synchronizer := synchronizer_ofEmulator settings root times
  have isSegment := isSegment_subscriptionOf noSlash
  cases change with
  | apply =>
      rw [perform_apply]
      apply keeps.apply noFolder
      · rw [synchronizer]
        exact Synchronizer.confinedAt_apply_overEmulator noFolder
          (isEmulatorKey _) fun found _ => isEmulatorKey found
      · intro observed applied
        rw [synchronizer] at applied
        exact ⟨job, _, isSegment, rfl,
          Synchronizer.id_of_apply_overEmulator applied⟩
  | refresh =>
      rw [perform_refresh]
      apply keeps.refresh noFolder
      intro id
      rw [synchronizer]
      exact Synchronizer.confinedAt_read_overEmulator noFolder
        fun found _ => isEmulatorKey found
  | destroy =>
      rw [perform_destroy]
      apply keeps.destroy
      intro id
      rw [synchronizer]
      exact Synchronizer.confinedAt_delete_overEmulator noFolder
        fun found _ => isEmulatorKey found

/-- The stores that result from commands on the emulator, in subscriptions
without slashes, when nothing else writes records: everything else may write
other values and remove any. -/
inductive Reachable (limit : Nat) : Directory → Prop where
  | fresh : Reachable limit { nameLimit := limit }
  | perform {directory : Directory} {settings : Settings}
      (noSlash : '/' ∉ settings.subscription.toList) (root : String)
      (times : Times) (change : Change) (job : Job)
      (before : Reachable limit directory) :
      Reachable limit
        ((ofEmulator settings root times).perform change job directory).2
  | put {directory : Directory} {key : List UInt8}
      (noRecord : ∀ address, key ≠ Record.key address) (value : List UInt8)
      (before : Reachable limit directory) :
      Reachable limit (Store.put directory key value).2
  | delete {directory : Directory} (key : List UInt8)
      (before : Reachable limit directory) :
      Reachable limit (Store.delete directory key).2

theorem Reachable.hasNoFolder {limit : Nat} {directory : Directory}
    (reachable : Reachable limit directory) : directory.HasNoFolder := by
  induction reachable with
  | fresh => exact Store.Reachable.fresh.hasNoFolder
  | perform noSlash root times change job before ih =>
      exact (confinedAt_perform ih _ root times change job).hasNoFolder ih
  | put noRecord value before ih => exact hasNoFolder_put ih _ value
  | delete key before ih => exact hasNoFolder_delete ih key

/-- In every reachable store, records tell ids of their jobs. -/
theorem Reachable.keepsIds {limit : Nat} {directory : Directory}
    (reachable : Reachable limit directory) : KeepsIds directory := by
  induction reachable with
  | fresh => exact keepsIds_fresh limit
  | perform noSlash root times change job before ih =>
      exact keepsIds_perform ih before.hasNoFolder noSlash root times change
        job
  | put noRecord value before ih =>
      apply ih.of_get?_eq
      intro address
      exact get?_put_of_ne before.hasNoFolder (noRecord address).symm value
  | @delete directory key before ih =>
      intro address record loaded
      apply ih address record
      by_cases same : Record.key address = key
      · subst same
        exact Record.load_of_load_forget loaded
      · rwa [← Record.load_congr (get?_delete_of_ne same directory)]

end CommandLine.Session

end ScheduledJobs
