import ScheduledJobs.CommandLine.Session
import ScheduledJobs.Proofs.Synchronizer.Confined

/-! # What the commands touch -/

namespace ScheduledJobs

open Document Store Text

namespace Record

variable {own : List UInt8 → Prop} {directory : Directory} {address : String}

theorem confinedAt_load (owns : own (key address)) :
    ConfinedAt own (fun directory => (load directory address, directory))
      directory :=
  Store.confinedAt_load owns read

theorem confinedAt_save (noFolder : directory.HasNoFolder)
    (owns : own (key address)) (record : Record) :
    ConfinedAt own (fun directory => save directory address record)
      directory :=
  confinedAt_put noFolder owns (Utf8.encode (Json.render record.toValue))

theorem confinedAt_forget (owns : own (key address)) :
    ConfinedAt own (fun directory => forget directory address) directory :=
  confinedAt_delete owns

end Record

namespace CommandLine

/-- The commands that change the store. -/
inductive Change where
  | apply
  | refresh
  | destroy
  deriving DecidableEq

namespace Session

/-- Carry a command out for a job. -/
def perform (session : Session) : Change → Job → Directory →
    Except Failure String × Directory
  | .apply => session.apply
  | .refresh => session.refresh
  | .destroy => session.destroy

@[simp] theorem perform_apply (session : Session) :
    session.perform .apply = session.apply := rfl

@[simp] theorem perform_refresh (session : Session) :
    session.perform .refresh = session.refresh := rfl

@[simp] theorem perform_destroy (session : Session) :
    session.perform .destroy = session.destroy := rfl

variable {own : List UInt8 → Prop} {directory : Directory}
  {session : Session} {job : Job}

theorem confinedAt_keep (noFolder : directory.HasNoFolder)
    (owns : own (Record.key job.address)) (observed : Observed) :
    ConfinedAt own (session.keep job observed) directory := by
  let record : Record :=
    { id := observed.id, observed := observed.job,
      syncedAt := session.recordedAt }
  have saves : session.keep job observed =
      andThen (fun directory => record.save directory job.address)
        fun saved directory =>
          ((saved.mapError (.store session.root)).map fun _ =>
            record.id ++ "\n", directory) := by
    funext directory
    dsimp only [keep, andThen, record]
    rcases Record.save directory job.address _ with ⟨_ | _, next⟩ <;> rfl
  rw [saves]
  exact (record.confinedAt_save noFolder owns).map noFolder _

theorem confinedAt_forget (noFolder : directory.HasNoFolder)
    (owns : own (Record.key job.address)) (output : String) :
    ConfinedAt own (fun directory =>
      ((.ok output : Except Failure String),
        (Record.forget directory job.address).2)) directory :=
  (Record.confinedAt_forget owns).map noFolder fun _ => Except.ok output

theorem apply_eq_andThen (session : Session) (job : Job) :
    session.apply job =
      andThen (session.synchronizer.apply job)
        fun applied => match applied with
          | .ok observed => session.keep job observed
          | .error failure => fun directory =>
              (.error (.synchronizer failure), directory) := by
  funext directory
  dsimp only [apply, andThen]
  rcases session.synchronizer.apply job directory with
    ⟨_ | _, next⟩ <;> rfl

theorem confinedAt_apply (noFolder : directory.HasNoFolder)
    (owns : own (Record.key job.address))
    (applies : ConfinedAt own (session.synchronizer.apply job) directory) :
    ConfinedAt own (session.apply job) directory := by
  rw [apply_eq_andThen]
  apply applies.andThen noFolder
  intro noFolderNext
  cases (session.synchronizer.apply job directory).1 with
  | error failure => exact .pure _
  | ok observed => exact confinedAt_keep noFolderNext owns observed

/-- Go on with the record of a job, or with the fact that there is none. -/
def withRecord (session : Session) (job : Job)
    (next : Option Record → Directory → Except Failure String × Directory) :
    Directory → Except Failure String × Directory :=
  andThen (fun directory => (Record.load directory job.address, directory))
    fun loaded => match loaded with
      | .ok found => next found
      | .error failure => fun directory =>
          (.error (.store session.root failure), directory)

theorem confinedAt_withRecord (noFolder : directory.HasNoFolder)
    (owns : own (Record.key job.address))
    {next : Option Record → Directory → Except Failure String × Directory}
    (confined : ∀ found, Record.load directory job.address = .ok found →
      ConfinedAt own (next found) directory) :
    ConfinedAt own (session.withRecord job next) directory := by
  apply (Record.confinedAt_load owns).andThen noFolder
  intro _
  dsimp only
  cases loaded : Record.load directory job.address with
  | error failure => exact .pure _
  | ok found => exact confined found loaded

/-- Refresh a job whose record has been looked up. -/
def refreshFound (session : Session) (job : Job) :
    Option Record → Directory → Except Failure String × Directory
  | none => fun directory => (.error (.unmanaged job.address), directory)
  | some record => andThen (session.synchronizer.read record.id)
      fun reading => match reading with
        | .ok (.found observed) => session.keep job observed
        | .ok .gone => fun directory =>
            (.ok (job.address ++ ": gone\n"),
              (Record.forget directory job.address).2)
        | .error failure => fun directory =>
            (.error (.synchronizer failure), directory)

theorem refresh_eq_withRecord (session : Session) (job : Job) :
    session.refresh job =
      session.withRecord job (session.refreshFound job) := by
  funext directory
  dsimp only [refresh, Session.record, withRecord, andThen]
  rcases Record.load directory job.address with _ | _ | record
  · rfl
  · rfl
  · dsimp only [refreshFound, andThen, Except.mapError]
    rcases session.synchronizer.read record.id directory with
      ⟨_ | _ | _, left⟩ <;> rfl

theorem confinedAt_refresh (noFolder : directory.HasNoFolder)
    (owns : own (Record.key job.address))
    (reads : ∀ record, Record.load directory job.address = .ok (some record) →
      ConfinedAt own (session.synchronizer.read record.id) directory) :
    ConfinedAt own (session.refresh job) directory := by
  rw [refresh_eq_withRecord]
  apply confinedAt_withRecord noFolder owns
  intro found loaded
  cases found with
  | none => exact .pure _
  | some record =>
      rw [refreshFound]
      apply (reads record loaded).andThen noFolder
      intro noFolderNext
      rcases (session.synchronizer.read record.id directory).1 with
        failure | observed | _
      · exact .pure _
      · exact confinedAt_keep noFolderNext owns observed
      · exact confinedAt_forget noFolderNext owns _

/-- Destroy a job whose record has been looked up. -/
def destroyFound (session : Session) (job : Job) :
    Option Record → Directory → Except Failure String × Directory
  | none => fun directory => (.ok (job.address ++ ": absent\n"), directory)
  | some record => andThen (session.synchronizer.delete record.id)
      fun deleted => match deleted with
        | .ok () => fun directory =>
            (.ok (job.address ++ ": destroyed\n"),
              (Record.forget directory job.address).2)
        | .error failure => fun directory =>
            (.error (.synchronizer failure), directory)

theorem destroy_eq_withRecord (session : Session) (job : Job) :
    session.destroy job =
      session.withRecord job (session.destroyFound job) := by
  funext directory
  dsimp only [destroy, Session.record, withRecord, andThen]
  rcases Record.load directory job.address with _ | _ | record
  · rfl
  · rfl
  · dsimp only [destroyFound, andThen, Except.mapError]
    rcases session.synchronizer.delete record.id directory with
      ⟨_ | _, left⟩ <;> rfl

theorem confinedAt_destroy (noFolder : directory.HasNoFolder)
    (owns : own (Record.key job.address))
    (deletes : ∀ record,
      Record.load directory job.address = .ok (some record) →
      ConfinedAt own (session.synchronizer.delete record.id) directory) :
    ConfinedAt own (session.destroy job) directory := by
  rw [destroy_eq_withRecord]
  apply confinedAt_withRecord noFolder owns
  intro found loaded
  cases found with
  | none => exact .pure _
  | some record =>
      rw [destroyFound]
      apply (deletes record loaded).andThen noFolder
      intro noFolderNext
      cases (session.synchronizer.delete record.id directory).1 with
      | error failure => exact .pure _
      | ok _ => exact confinedAt_forget noFolderNext owns _

/-- The keys that a command for a job can touch in a store: those of its record
and of its id, and those of the ids that the written form of its id and the id
in its record denote. -/
inductive Touches (subscription : String) (job : Job)
    (directory : Directory) : List UInt8 → Prop where
  | record : Touches subscription job directory (Record.key job.address)
  | sent : Touches subscription job directory
      (Emulator.key (job.idIn subscription))
  | denoted {found : JobId}
      (reads : JobId.ofText (job.idIn subscription).text = .ok found) :
      Touches subscription job directory (Emulator.key found)
  | recorded {record : Record} {found : JobId}
      (loaded : Record.load directory job.address = .ok (some record))
      (reads : JobId.ofText record.id = .ok found) :
      Touches subscription job directory (Emulator.key found)

theorem synchronizer_ofEmulator (settings : Settings) (root : String)
    (times : Times) :
    (ofEmulator settings root times).synchronizer =
      Synchronizer.overEmulator root settings.environment
        (subscriptionOf settings) times.now times.stamp := rfl

/-- Every command on the emulator is confined to the keys that it can touch. -/
theorem confinedAt_perform (noFolder : directory.HasNoFolder)
    (settings : Settings) (root : String) (times : Times) (change : Change)
    (job : Job) :
    ConfinedAt (Touches (subscriptionOf settings) job directory)
      ((ofEmulator settings root times).perform change job) directory := by
  have synchronizer := synchronizer_ofEmulator settings root times
  have owns : Touches (subscriptionOf settings) job directory
      (Record.key job.address) := .record
  cases change with
  | apply =>
      rw [perform_apply]
      refine confinedAt_apply noFolder owns ?_
      rw [synchronizer]
      exact Synchronizer.confinedAt_apply_overEmulator noFolder .sent
        fun found reads => .denoted reads
  | refresh =>
      rw [perform_refresh]
      refine confinedAt_refresh noFolder owns ?_
      intro record loaded
      rw [synchronizer]
      exact Synchronizer.confinedAt_read_overEmulator noFolder
        fun found reads => .recorded loaded reads
  | destroy =>
      rw [perform_destroy]
      refine confinedAt_destroy noFolder owns ?_
      intro record loaded
      rw [synchronizer]
      exact Synchronizer.confinedAt_delete_overEmulator noFolder
        fun found reads => .recorded loaded reads

end Session

end CommandLine

end ScheduledJobs
