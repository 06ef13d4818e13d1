import ScheduledJobs.Proofs.Job.Url
import ScheduledJobs.Proofs.Synchronizer.Held
import ScheduledJobs.Proofs.Synchronizer.Runs

/-!
# The synchronizer over the emulator is a map

A book of the observed jobs under their ids is kept along a run from its tasks
and answers alone, and every later task is answered by the book.
-/

namespace ScheduledJobs.Synchronizer

/-- What has been observed of the jobs that are there, under their ids. -/
abbrev Book := JobId → Option Job

namespace Book

/-- The book with another entry under an id. -/
def enter (book : Book) (id : JobId) (job? : Option Job) : Book :=
  fun other => if other = id then job? else book other

@[simp] theorem enter_self (book : Book) (id : JobId) (job? : Option Job) :
    book.enter id job? id = job? := if_pos rfl

theorem enter_of_ne {id other : JobId} (different : other ≠ id) (book : Book)
    (job? : Option Job) : book.enter id job? other = book other :=
  if_neg different

/-- The book after a task has been answered: a job that has been applied is
entered as it was observed, and one that has been deleted is crossed out. -/
def note (subscription : String) (book : Book) : Task → Answer → Book
  | .apply job, .applied (.ok observed) =>
      book.enter (job.idIn subscription) (some observed.job)
  | .delete id, .deleted (.ok ()) =>
      match JobId.ofText id with
      | .ok found => book.enter found none
      | .error _ => book
  | _, _ => book

/-- The book after tasks have been answered one after the other. -/
def noteAll (subscription : String) :
    Book → List TimedTask → List Answer → Book
  | book, timed :: others, answer :: answers =>
      noteAll subscription (book.note subscription timed.task answer) others
        answers
  | book, _, _ => book

end Book

/-- Whether a task with the answer to it may change what is read of the job
with an id: the job is applied with success, or it is deleted. -/
def Concerns (subscription : String) (id : JobId) : Task → Answer → Prop
  | .apply job, .applied (.ok _) => job.idIn subscription = id
  | .delete text, _ => JobId.ofText text = .ok id
  | _, _ => False

theorem Book.note_of_not_concerns {subscription : String} {id : JobId}
    {task : Task} {answer : Answer}
    (apart : ¬Concerns subscription id task answer) (book : Book) :
    book.note subscription task answer id = book id := by
  rcases task with job | text | text <;>
    rcases answer with (_ | observed) | (_ | _) | (_ | _) <;> try rfl
  case apply.applied.ok =>
    exact enter_of_ne (fun same => apart same.symm) _ _
  case delete.deleted.ok =>
    cases denoted : JobId.ofText text with
    | error error => simp only [note, denoted]
    | ok found =>
        simp only [note, denoted]
        refine enter_of_ne (fun same => apart ?_) _ _
        rw [Concerns, denoted, same]

/-- Whether the store holds the jobs in the book, and no other one under an id
that a text can denote. -/
structure Keeps (directory : Directory) (book : Book) : Prop where
  noFolder : directory.HasNoFolder
  holds : ∀ id : JobId, id.HasSegments →
    Emulator.Holds directory id (book id)

namespace Keeps

variable {subscription : String} {directory : Directory} {book : Book}

theorem fresh (limit : Nat) : Keeps { nameLimit := limit } fun _ => none where
  noFolder := .fresh limit
  holds := fun id _ => Emulator.holds_fresh limit id

/-- A store that differs under the key of one id keeps a book that differs in
the entry of that id. -/
theorem enter (keeps : Keeps directory book) {next : Directory}
    (noFolder : next.HasNoFolder) {id : JobId} {job? : Option Job}
    (holds : Emulator.Holds next id job?)
    (others : ∀ key, key ≠ Emulator.key id →
      Store.get? next key = Store.get? directory key) :
    Keeps next (book.enter id job?) where
  noFolder := noFolder
  holds := by
    intro other hasSegments
    by_cases same : other = id
    · rw [same, Book.enter_self]
      exact holds
    · rw [Book.enter_of_ne same]
      have different : Emulator.key other ≠ Emulator.key id := fun equal =>
        same (Emulator.key_injective hasSegments.isSlashFree equal)
      exact (keeps.holds other hasSegments).congr (others _ different)

theorem performAt (keeps : Keeps directory book)
    (isSegment : IsSegment subscription) (timed : TimedTask)
    (slashFree : ∀ job, timed.task = .apply job → job.IsSlashFree)
    (root : String) (environment : Environment) :
    Keeps (performAt root environment subscription timed directory).2
      (book.note subscription timed.task
        (performAt root environment subscription timed directory).1) := by
  obtain ⟨now, stamp, task⟩ := timed
  cases task with
  | apply job =>
      rcases apply_overEmulator_cases (slashFree job rfl) isSegment
          keeps.noFolder root environment now stamp with
        ⟨failure, failed⟩ | ⟨definition, canonical, -, -, fits, applied⟩
      · simp only [Synchronizer.performAt, perform, failed]
        exact keeps
      · simp only [Synchronizer.performAt, perform, applied]
        exact keeps.enter (Store.hasNoFolder_written keeps.noFolder _ _)
          (Emulator.holds_saved fits canonical)
          fun key different => Store.get?_written_of_ne different _ _
  | read text =>
      simp only [Synchronizer.performAt, perform, read_overEmulator_snd]
      exact keeps
  | delete text =>
      cases denoted : JobId.ofText text with
      | error error =>
          simp only [Synchronizer.performAt, perform,
            delete_overEmulator_of_malformed denoted]
          exact keeps
      | ok found =>
          simp only [Synchronizer.performAt, perform,
            delete_overEmulator_of_ofText denoted, Book.note, denoted]
          exact keeps.enter (Store.hasNoFolder_delete keeps.noFolder _)
            (Emulator.holds_delete directory found)
            fun key different => Store.get?_delete_of_ne different directory

theorem run (isSegment : IsSegment subscription) {tasks : List TimedTask}
    (slashFree : ∀ timed ∈ tasks, ∀ job, timed.task = .apply job →
      job.IsSlashFree)
    (keeps : Keeps directory book) (root : String)
    (environment : Environment) :
    Keeps (run root environment subscription tasks directory).2
      (book.noteAll subscription tasks
        (run root environment subscription tasks directory).1) := by
  induction tasks generalizing directory book with
  | nil => exact keeps
  | cons timed others ih =>
      have first := keeps.performAt isSegment timed
        (slashFree timed (by simp)) root environment
      exact ih (fun other member => slashFree other (by simp [member])) first

theorem performAt_read (keeps : Keeps directory book) {text : String}
    {found : JobId} (denoted : JobId.ofText text = .ok found) (root : String)
    (environment : Environment) (subscription : String)
    (now stamp : Instant) :
    Synchronizer.performAt root environment subscription
        ⟨now, stamp, .read text⟩ directory =
      (.looked (.ok (readingOf text (book found))), directory) := by
  have holds := keeps.holds found (JobId.hasSegments_of_ofText denoted)
  simp only [Synchronizer.performAt, perform,
    read_overEmulator_of_holds denoted holds]

end Keeps

/-- After any run from a fresh store, jobs without slashes are read as the book
says and can be deleted.  A further task that does not apply a job with success
or delete it leaves what is read of it as it is. -/
theorem run_refines_book (limit : Nat) (root : String)
    (environment : Environment) {subscription : String}
    (isSegment : IsSegment subscription) (tasks : List TimedTask)
    (slashFree : ∀ timed ∈ tasks, ∀ job, timed.task = .apply job →
      job.IsSlashFree) :
    let ended := run root environment subscription tasks
      { nameLimit := limit }
    let book := Book.noteAll subscription (fun _ => none) tasks ended.1
    ∀ text found, JobId.ofText text = .ok found → ∀ now stamp,
      performAt root environment subscription ⟨now, stamp, .read text⟩
          ended.2 =
        (.looked (.ok (readingOf text (book found))), ended.2) ∧
      (performAt root environment subscription ⟨now, stamp, .delete text⟩
        ended.2).1 = .deleted (.ok ()) ∧
      ∀ timed : TimedTask,
        (∀ job, timed.task = .apply job → job.IsSlashFree) →
        ¬Concerns subscription found timed.task
          (performAt root environment subscription timed ended.2).1 →
        (performAt root environment subscription ⟨now, stamp, .read text⟩
            (performAt root environment subscription timed ended.2).2).1 =
          (performAt root environment subscription ⟨now, stamp, .read text⟩
            ended.2).1 := by
  intro ended book text found denoted now stamp
  have keeps : Keeps ended.2 book :=
    (Keeps.fresh limit).run isSegment slashFree root environment
  have before := keeps.performAt_read denoted root environment subscription
    now stamp
  refine ⟨before, ?_, ?_⟩
  · simp only [performAt, perform, delete_overEmulator_of_ofText denoted]
  · intro timed timedSlashFree apart
    have after := (keeps.performAt isSegment timed timedSlashFree root
      environment).performAt_read denoted root environment subscription now
        stamp
    rw [after, before, Book.note_of_not_concerns apart]

/-- The id of the report with keys in other cases, the pairs in another order,
one pair more, and slashes at the end. -/
def spelledId : String :=
  "/JOBS/report/Extra/pair/SUBSCRIPTIONS/main/JobCollections/daily" ++
    "/resourcegroups/group//"

/-- The id of a job that has not been applied. -/
def otherId : String :=
  "/subscriptions/main/resourceGroups/group/jobCollections/daily/jobs/other"

/-- Apply the report. -/
def visitTasks : List TimedTask :=
  [⟨.epoch, .epoch, .apply (.visit "group" "daily" "report")⟩]

theorem isSlashFree_visit : (Job.visit "group" "daily" "report").IsSlashFree :=
  ⟨by decide, by decide, by decide⟩

theorem exists_apply_visit :
    ∃ observed next,
      (overEmulator "/state" {} "main" .epoch .epoch).apply
          (.visit "group" "daily" "report") { nameLimit := 255 } =
        (.ok observed, next) := by
  have valid : (Job.visit "group" "daily" "report").isValid = true :=
    Job.isValid_visit (by decide) (by decide) (by decide)
  have isSegment : IsSegment "main" := ⟨by decide, by decide⟩
  have segments := Job.hasSegments_idIn (Job.isAccepted_of_isValid valid)
    isSlashFree_visit isSegment
  have stores : Stores {} "main" .epoch .epoch
      (.visit "group" "daily" "report") { nameLimit := 255 } :=
    ⟨by decide +kernel, by decide +kernel⟩
  exact ⟨_, _, apply_overEmulator_of_stores valid (Keeps.fresh 255).noFolder
    stores segments "/state"⟩

/-- A job that has been applied is read under an id that is spelled in another
way, and another job is not there. -/
theorem run_refines_book_visit :
    ∃ observed : Observed,
      let ended := run "/state" {} "main" visitTasks { nameLimit := 255 }
      ended.1 = [.applied (.ok observed)] ∧
      (performAt "/state" {} "main" ⟨.epoch, .epoch, .read spelledId⟩
          ended.2).1 =
        .looked (.ok (.found { id := spelledId, job := observed.job })) ∧
      (performAt "/state" {} "main" ⟨.epoch, .epoch, .read otherId⟩
          ended.2).1 = .looked (.ok .gone) := by
  have isSegment : IsSegment "main" := ⟨by decide, by decide⟩
  obtain ⟨observed, next, applied⟩ := exists_apply_visit
  have answers : (run "/state" {} "main" visitTasks { nameLimit := 255 }).1 =
      [.applied (.ok observed)] := by
    simp only [visitTasks, run, performAt, perform, applied]
  have spelled : JobId.ofText spelledId =
      .ok ((Job.visit "group" "daily" "report").idIn "main") := by rfl
  have other : JobId.ofText otherId =
      .ok ((Job.visit "group" "daily" "other").idIn "main") := by rfl
  have different : (Job.visit "group" "daily" "other").idIn "main" ≠
      (Job.visit "group" "daily" "report").idIn "main" := by
    decide
  have refined := run_refines_book 255 "/state" {} isSegment visitTasks
    fun timed member job isApply => by
      obtain rfl := List.eq_of_mem_singleton member
      obtain rfl := Task.apply.inj isApply
      exact isSlashFree_visit
  have found := (refined spelledId _ spelled .epoch .epoch).1
  have gone := (refined otherId _ other .epoch .epoch).1
  rw [answers] at found gone
  simp only [visitTasks, Book.noteAll, Book.note, Book.enter_self,
    Book.enter_of_ne different] at found gone
  exact ⟨observed, answers, congrArg Prod.fst found, congrArg Prod.fst gone⟩

end ScheduledJobs.Synchronizer
