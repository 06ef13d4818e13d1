import ScheduledJobs.Proofs.Exchange.WellFormed
import ScheduledJobs.Proofs.Service.Logged
import ScheduledJobs.Proofs.Synchronizer.Emulated

/-!
# What reaches the service

Nothing but the definition of a job that has been accepted is ever sent to a
service.
-/

namespace ScheduledJobs.Synchronizer

open Service

variable {State : Type} (synchronizer : Synchronizer State)

/-- The synchronizer with a log of its calls on the service. -/
def logged : Synchronizer (State × List Call) where
  service := synchronizer.service.logged
  environment := synchronizer.environment
  subscription := synchronizer.subscription
  now := synchronizer.now

theorem runsAs_read (id : String) :
    RunsAs (fun call => ∃ jobId, call = .get jobId)
      (synchronizer.logged.read id) (synchronizer.read id) := by
  intro state calls
  cases denoted : JobId.ofText id with
  | error error =>
      refine ⟨[], ?_, fun call member => absurd member List.not_mem_nil⟩
      simp only [read, denoted, List.nil_append]
  | ok jobId =>
      refine ⟨[.get jobId], ?_, List.forall_mem_singleton.mpr ⟨jobId, rfl⟩⟩
      simp only [read, denoted, logged, Service.logged, logging]
      rcases synchronizer.service.get jobId state with ⟨_ | _, next⟩
      · split <;> simp_all
      · rfl

theorem runsAs_readBack (sent : JobId) (stored : Definition) :
    RunsAs (fun call => ∃ jobId, call = .get jobId)
      (synchronizer.logged.readBack sent stored)
      (synchronizer.readBack sent stored) := by
  intro state calls
  obtain ⟨made, reads, onlyGet⟩ :=
    runsAs_read synchronizer (stored.id.getD sent.text) state calls
  refine ⟨made, ?_, onlyGet⟩
  simp only [readBack, reads]
  rcases synchronizer.read (stored.id.getD sent.text) state with
    ⟨_ | _ | _, next⟩ <;> rfl

/-- The calls that applying a job may make. -/
def MayCall (job : Job) (call : Call) : Prop :=
  job.isValid = true ∧
    ((∃ jobId, call = .get jobId) ∨
      call = .createOrUpdate (synchronizer.jobId job)
        (job.toDefinition synchronizer.environment synchronizer.now))

/-- Applying a job sends nothing but its definition, and only when it is
accepted. -/
theorem runsAs_apply (job : Job) :
    RunsAs (synchronizer.MayCall job) (synchronizer.logged.apply job)
      (synchronizer.apply job) := by
  intro state calls
  by_cases valid : job.isValid = true
  · let id := synchronizer.jobId job
    let definition :=
      job.toDefinition synchronizer.environment synchronizer.now
    have sends : synchronizer.MayCall job (.createOrUpdate id definition) :=
      ⟨valid, .inr rfl⟩
    cases answered :
        synchronizer.service.createOrUpdate id definition state with
    | mk answer next =>
        have sent : synchronizer.logged.service.createOrUpdate id definition
            (state, calls) =
              (answer, (next, .createOrUpdate id definition :: calls)) := by
          simp only [logged, Service.logged, logging, answered]
        cases answer with
        | error cause =>
            refine ⟨[_], ?_, List.forall_mem_singleton.mpr sends⟩
            rw [apply_of_createOrUpdate_error _ valid sent,
              apply_of_createOrUpdate_error _ valid answered]
            rfl
        | ok stored =>
            obtain ⟨made, readsBack, onlyGet⟩ :=
              runsAs_readBack synchronizer id stored next
                (.createOrUpdate id definition :: calls)
            refine ⟨made ++ [.createOrUpdate id definition], ?_, ?_⟩
            · rw [apply_of_createOrUpdate_ok _ valid sent,
                apply_of_createOrUpdate_ok _ valid answered,
                List.append_assoc]
              exact readsBack
            · intro call member
              rcases List.mem_append.mp member with read | create
              · exact ⟨valid, .inl (onlyGet call read)⟩
              · exact List.eq_of_mem_singleton create ▸ sends
  · refine ⟨[], ?_, fun call member => absurd member List.not_mem_nil⟩
    simp only [apply, if_neg valid, List.nil_append]

/-- The calls on the service that applying a job makes. -/
def callsOfApply (job : Job) (state : State) : List Call :=
  (synchronizer.logged.apply job (state, [])).2.2

/-- The definition of a job that has been read and accepted is well formed, and
the service gets no other one. -/
theorem wellFormed_of_sent {text : String} {job : Job}
    (declared : Job.ofFile text = .ok job) :
    (job.isValid = true → ∀ environment now,
      (job.toDefinition environment now).WellFormed ∧
        (job.toDefinition environment now).requests.map
            Definition.Request.uri =
          job.webActions.map fun action => some action.url) ∧
    ∀ {State : Type} (synchronizer : Synchronizer State) (state : State)
      (id : JobId) (definition : Definition),
      .createOrUpdate id definition ∈ synchronizer.callsOfApply job state →
        job.isValid = true ∧
          definition = job.toDefinition synchronizer.environment
            synchronizer.now ∧
          definition.WellFormed := by
  have wellFormed (valid : job.isValid = true) :=
    Job.wellFormed_toDefinition (Job.isRead_of_ofFile declared).wellFormed
      (Job.isValid_iff.mp valid)
  refine ⟨fun valid environment now => ⟨wellFormed valid environment now,
    job.map_uri_requests_toDefinition environment now⟩, ?_⟩
  intro State synchronizer state id definition called
  obtain ⟨made, applied, mayCall⟩ := runsAs_apply synchronizer job state []
  rw [callsOfApply, applied, List.append_nil] at called
  obtain ⟨valid, ⟨jobId, isGet⟩ | isCreate⟩ := mayCall _ called
  · cases isGet
  · obtain ⟨rfl, rfl⟩ := Call.createOrUpdate.inj isCreate
    exact ⟨valid, rfl, wellFormed valid _ _⟩

/-- A job file with repeated hours and days in a schedule. -/
def weeklyFile : String :=
  "name = 'weekly'\n" ++
  "resource_group_name = 'group'\n" ++
  "job_collection_name = 'daily'\n" ++
  "[action_web]\n" ++
  "url = 'https://host'\n" ++
  "method = 'post'\n" ++
  "[retry]\n" ++
  "count = 3\n" ++
  "[recurrence]\n" ++
  "frequency = 'Week'\n" ++
  "count = 5\n" ++
  "hours = [23, 1, 23]\n" ++
  "week_days = ['monday', 'Friday', 'Monday']\n"

/-- The action of the weekly job. -/
def weeklyAction : WebAction where
  url := "https://host"
  method := "post"
  body := none
  headers := ∅
  credentials := none

/-- The timetable that is sent of the weekly job. -/
def weeklyTimetable : Definition.Timetable where
  hours := some [1, 23]
  weekDays := some ["monday", "Friday"]

/-- The timetable that is sent of a job. -/
def sentTimetable? (job : Job) : Option Definition.Timetable :=
  job.recurrence.bind fun recurrence => recurrence.toRepetition.timetable

theorem ofFile_weeklyFile :
    ∃ job, Job.ofFile weeklyFile = .ok job ∧ job.action = some weeklyAction ∧
      job.structureViolations = [] ∧
      { job with action := none }.fieldViolations = [] ∧
      sentTimetable? job = some weeklyTimetable := by
  have fields : (Job.ofFile weeklyFile).toOption.any (fun job =>
      job.action = some weeklyAction ∧
        job.structureViolations = [] ∧
      { job with action := none }.fieldViolations = [] ∧
        sentTimetable? job = some weeklyTimetable) = true := by
    decide +kernel
  obtain ⟨job, read, found⟩ := exists_of_any_toOption fields
  exact ⟨job, read, of_decide_eq_true found⟩

theorem keepsRules_weeklyAction : weeklyAction.KeepsRules :=
  ⟨Url.isWeb_host, by decide⟩

/-- The weekly job is sent with every hour and every day once. -/
theorem wellFormed_weeklyFile :
    ∃ job, Job.ofFile weeklyFile = .ok job ∧ job.isValid = true ∧
      sentTimetable? job = some weeklyTimetable ∧
      (job.toDefinition {} .epoch).WellFormed := by
  obtain ⟨job, declared, action, structured, others, sent⟩ :=
    ofFile_weeklyFile
  have valid := Job.isValid_of_action action keepsRules_weeklyAction structured
    others
  exact ⟨job, declared, valid, sent,
    ((wellFormed_of_sent declared).1 valid {} .epoch).1⟩

end ScheduledJobs.Synchronizer
