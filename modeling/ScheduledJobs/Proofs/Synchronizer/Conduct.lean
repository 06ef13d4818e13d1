import ScheduledJobs.Proofs.Synchronizer.Runs
import ScheduledJobs.Proofs.Synchronizer.Sent

/-!
# How a synchronizer deals with a service

Whatever a service answers, a synchronizer calls it as rarely as it can, and its
answer names the job that a call has failed for.
-/

namespace ScheduledJobs

theorem Operation.eq_of_name {first second : Operation}
    (same : first.name = second.name) : first = second := by
  cases first <;> cases second <;> first | rfl | exact absurd same (by decide)

namespace Synchronizer

open Service

variable {State : Type} (synchronizer : Synchronizer State)

/-- How a synchronizer looks up the job with an id: the calls on the service in
their order, what comes of them, and the state in which they leave the
service. -/
inductive Looks (id : String) (state : State) :
    List Call → Except Failure Reading → State → Prop where
  /-- The text is not the id of a job. -/
  | misnamed {error : JobId.Error} (denotes : JobId.ofText id = .error error) :
      Looks id state [] (.error (.identifier error)) state
  | found {jobId : JobId} {definition : Definition} {next : State}
      (denotes : JobId.ofText id = .ok jobId)
      (got : synchronizer.service.get jobId state = (.ok definition, next)) :
      Looks id state [.get jobId]
        (.ok (.found { id, job := definition.toJob jobId })) next
  /-- The service does not know the job, which is no failure. -/
  | gone {jobId : JobId} {next : State}
      (denotes : JobId.ofText id = .ok jobId)
      (got : synchronizer.service.get jobId state =
        (.error .notFound, next)) :
      Looks id state [.get jobId] (.ok .gone) next
  /-- The service fails in another way. -/
  | failed {jobId : JobId} {cause : Service.Error} {next : State}
      {operation : Operation} (denotes : JobId.ofText id = .ok jobId)
      (got : synchronizer.service.get jobId state = (.error cause, next))
      (known : cause ≠ .notFound) (named : operation.name = "reading") :
      Looks id state [.get jobId]
        (.error (.service operation jobId.name jobId.resourceGroup cause)) next

/-- How a synchronizer reads a job back that has been sent, when the service has
given it an id. -/
inductive ReadsBack (job : Job) (id : String) (state : State) :
    List Call → Except Failure Observed → State → Prop where
  | observed {calls : List Call} {observed : Observed} {next : State}
      (looks : Looks synchronizer id state calls (.ok (.found observed)) next) :
      ReadsBack job id state calls (.ok observed) next
  /-- The service does not know the job any more, which is a failure of the job
  that has been sent. -/
  | vanished {calls : List Call} {operation : Operation} {next : State}
      (looks : Looks synchronizer id state calls (.ok .gone) next)
      (named : operation.name = "reading back") :
      ReadsBack job id state calls
        (.error (.service operation job.name job.resourceGroup .notFound)) next
  | failed {calls : List Call} {failure : Failure} {next : State}
      (looks : Looks synchronizer id state calls (.error failure) next) :
      ReadsBack job id state calls (.error failure) next

/-- How a synchronizer carries out a task: the calls on the service in their
order, the answer, and the state in which they leave the service. -/
inductive Conducts (state : State) :
    Task → List Call → Answer → State → Prop where
  /-- A job that breaks rules is not sent. -/
  | broken {job : Job} (breaks : job.violations ≠ []) :
      Conducts state (.apply job) []
        (.applied (.error (.invalid job.name job.violations))) state
  /-- The service fails to take the job. -/
  | refused {job : Job} {cause : Service.Error} {next : State}
      {operation : Operation} (keeps : job.violations = [])
      (sent : synchronizer.service.createOrUpdate (synchronizer.jobId job)
        (job.toDefinition synchronizer.environment synchronizer.now) state =
          (.error cause, next))
      (named : operation.name = "creating/updating") :
      Conducts state (.apply job)
        [.createOrUpdate (synchronizer.jobId job)
          (job.toDefinition synchronizer.environment synchronizer.now)]
        (.applied (.error
          (.service operation job.name job.resourceGroup cause))) next
  /-- The job is read back under the id that the service has given it, or under
  the one that it was sent under when the service has given none. -/
  | applied {job : Job} {stored : Definition} {middle next : State}
      {calls : List Call} {result : Except Failure Observed}
      (keeps : job.violations = [])
      (sent : synchronizer.service.createOrUpdate (synchronizer.jobId job)
        (job.toDefinition synchronizer.environment synchronizer.now) state =
          (.ok stored, middle))
      (readsBack : ReadsBack synchronizer job
        (stored.id.getD (synchronizer.jobId job).text) middle calls result
          next) :
      Conducts state (.apply job)
        (.createOrUpdate (synchronizer.jobId job)
          (job.toDefinition synchronizer.environment synchronizer.now) :: calls)
        (.applied result) next
  | looked {id : String} {calls : List Call}
      {result : Except Failure Reading} {next : State}
      (looks : Looks synchronizer id state calls result next) :
      Conducts state (.read id) calls (.looked result) next
  /-- The text is not the id of a job. -/
  | misnamed {id : String} {error : JobId.Error}
      (denotes : JobId.ofText id = .error error) :
      Conducts state (.delete id) [] (.deleted (.error (.identifier error)))
        state
  /-- Nothing remains of the job, whether or not there was anything. -/
  | deleted {id : String} {jobId : JobId} {next : State}
      {result : Except Service.Error Unit}
      (denotes : JobId.ofText id = .ok jobId)
      (removed : synchronizer.service.delete jobId state = (result, next))
      (fine : result = .ok () ∨ result = .error .notFound) :
      Conducts state (.delete id) [.delete jobId] (.deleted (.ok ())) next
  /-- The service fails in another way. -/
  | kept {id : String} {jobId : JobId} {cause : Service.Error} {next : State}
      {operation : Operation} (denotes : JobId.ofText id = .ok jobId)
      (removed : synchronizer.service.delete jobId state =
        (.error cause, next))
      (known : cause ≠ .notFound) (named : operation.name = "deleting") :
      Conducts state (.delete id) [.delete jobId]
        (.deleted (.error
          (.service operation jobId.name jobId.resourceGroup cause))) next

/-- The calls on the service that a task makes, the first one first. -/
def callsOf (task : Task) (state : State) : List Call :=
  (synchronizer.logged.perform task (state, [])).2.2.reverse

variable {synchronizer} {state next : State} {calls : List Call}

theorem Looks.read_eq {id : String} {result : Except Failure Reading}
    (looks : Looks synchronizer id state calls result next) :
    synchronizer.read id state = (result, next) := by
  cases looks with
  | misnamed denotes => simp only [read, denotes]
  | found denotes got => simp only [read, denotes, got]
  | gone denotes got => simp only [read, denotes, got]
  | failed denotes got known named =>
      obtain rfl : _ = Operation.reading := Operation.eq_of_name named
      simp only [read, denotes, got]
      rfl

theorem ReadsBack.readBack_eq {job : Job} {stored : Definition}
    {result : Except Failure Observed}
    (readsBack : ReadsBack synchronizer job
      (stored.id.getD (synchronizer.jobId job).text) state calls result
        next) :
    synchronizer.readBack (synchronizer.jobId job) stored state =
      (result, next) := by
  cases readsBack with
  | observed looks => simp only [readBack, looks.read_eq]
  | vanished looks named =>
      obtain rfl : _ = Operation.readingBack := Operation.eq_of_name named
      simp only [readBack, looks.read_eq]
      rfl
  | failed looks => simp only [readBack, looks.read_eq]

theorem Conducts.perform_eq {task : Task} {answer : Answer}
    (conducts : Conducts synchronizer state task calls answer next) :
    synchronizer.perform task state = (answer, next) := by
  cases conducts with
  | broken breaks =>
      have invalid := fun valid => breaks (List.isEmpty_iff.mp valid)
      simp only [perform, apply_of_not_isValid _ invalid]
  | refused keeps sent named =>
      obtain rfl : _ = Operation.creatingOrUpdating :=
        Operation.eq_of_name named
      have valid := List.isEmpty_iff.mpr keeps
      simp only [perform, apply_of_createOrUpdate_error _ valid sent]
      rfl
  | applied keeps sent readsBack =>
      have valid := List.isEmpty_iff.mpr keeps
      simp only [perform, apply_of_createOrUpdate_ok _ valid sent,
        readsBack.readBack_eq]
  | looked looks => simp only [perform, looks.read_eq]
  | misnamed denotes => simp only [perform, delete, denotes]
  | deleted denotes removed fine =>
      rcases fine with rfl | rfl <;>
        simp only [perform, delete, denotes, removed]
  | kept denotes removed known named =>
      obtain rfl : _ = Operation.deleting := Operation.eq_of_name named
      simp only [perform, delete, denotes, removed]
      rfl

theorem logging_eq {α : Type} {perform : State → α × State} {result : α}
    (done : perform state = (result, next)) (call : Call) (log : List Call) :
    logging call perform (state, log) = (result, (next, call :: log)) := by
  rw [logging, done]

theorem Looks.logged {id : String} {result : Except Failure Reading}
    (looks : Looks synchronizer id state calls result next)
    (log : List Call) :
    Looks synchronizer.logged id (state, log) calls result
      (next, calls.reverse ++ log) := by
  cases looks with
  | misnamed denotes => exact .misnamed denotes
  | found denotes got => exact .found denotes (logging_eq got _ log)
  | gone denotes got => exact .gone denotes (logging_eq got _ log)
  | failed denotes got known named =>
      exact .failed denotes (logging_eq got _ log) known named

theorem ReadsBack.logged {job : Job} {id : String}
    {result : Except Failure Observed}
    (readsBack : ReadsBack synchronizer job id state calls result next)
    (log : List Call) :
    ReadsBack synchronizer.logged job id (state, log) calls result
      (next, calls.reverse ++ log) := by
  cases readsBack with
  | observed looks => exact .observed (looks.logged log)
  | vanished looks named => exact .vanished (looks.logged log) named
  | failed looks => exact .failed (looks.logged log)

theorem Conducts.logged {task : Task} {answer : Answer}
    (conducts : Conducts synchronizer state task calls answer next)
    (log : List Call) :
    Conducts synchronizer.logged (state, log) task calls answer
      (next, calls.reverse ++ log) := by
  cases conducts with
  | broken breaks => exact .broken breaks
  | refused keeps sent named =>
      exact .refused keeps (logging_eq sent _ log) named
  | applied keeps sent readsBack =>
      rw [List.reverse_cons, List.append_assoc]
      exact .applied keeps (logging_eq sent _ log) (readsBack.logged _)
  | looked looks => exact .looked (looks.logged log)
  | misnamed denotes => exact .misnamed denotes
  | deleted denotes removed fine =>
      exact .deleted denotes (logging_eq removed _ log) fine
  | kept denotes removed known named =>
      exact .kept denotes (logging_eq removed _ log) known named

theorem exists_looks (synchronizer : Synchronizer State) (id : String)
    (state : State) :
    ∃ calls result next, Looks synchronizer id state calls result next := by
  cases denotes : JobId.ofText id with
  | error error => exact ⟨_, _, _, .misnamed denotes⟩
  | ok jobId =>
      rcases got : synchronizer.service.get jobId state with
        ⟨cause | definition, next⟩
      · by_cases known : cause = .notFound
        · rw [known] at got
          exact ⟨_, _, _, .gone denotes got⟩
        · have named : Operation.reading.name = "reading" := rfl
          exact ⟨_, _, _, .failed denotes got known named⟩
      · exact ⟨_, _, _, .found denotes got⟩

theorem exists_readsBack (synchronizer : Synchronizer State) (job : Job)
    (id : String) (state : State) :
    ∃ calls result next,
      ReadsBack synchronizer job id state calls result next := by
  obtain ⟨calls, failure | observed | _, next, looks⟩ :=
    exists_looks synchronizer id state
  · exact ⟨_, _, _, .failed looks⟩
  · exact ⟨_, _, _, .observed looks⟩
  · have named : Operation.readingBack.name = "reading back" := rfl
    exact ⟨_, _, _, .vanished looks named⟩

theorem exists_conducts (synchronizer : Synchronizer State) (state : State)
    (task : Task) :
    ∃ calls answer next,
      Conducts synchronizer state task calls answer next := by
  cases task with
  | apply job =>
      by_cases keeps : job.violations = []
      · rcases sent : synchronizer.service.createOrUpdate
            (synchronizer.jobId job)
            (job.toDefinition synchronizer.environment synchronizer.now)
            state with ⟨cause | stored, middle⟩
        · have named :
              Operation.creatingOrUpdating.name = "creating/updating" := rfl
          exact ⟨_, _, _, .refused keeps sent named⟩
        · obtain ⟨calls, result, next, readsBack⟩ :=
            exists_readsBack synchronizer job
              (stored.id.getD (synchronizer.jobId job).text) middle
          exact ⟨_, _, _, .applied keeps sent readsBack⟩
      · exact ⟨_, _, _, .broken keeps⟩
  | read id =>
      obtain ⟨calls, result, next, looks⟩ :=
        exists_looks synchronizer id state
      exact ⟨_, _, _, .looked looks⟩
  | delete id =>
      cases denotes : JobId.ofText id with
      | error error => exact ⟨_, _, _, .misnamed denotes⟩
      | ok jobId =>
          rcases removed : synchronizer.service.delete jobId state with
            ⟨cause | _, next⟩
          · by_cases known : cause = .notFound
            · rw [known] at removed
              exact ⟨_, _, _, .deleted denotes removed (.inr rfl)⟩
            · have named : Operation.deleting.name = "deleting" := rfl
              exact ⟨_, _, _, .kept denotes removed known named⟩
          · exact ⟨_, _, _, .deleted denotes removed (.inl rfl)⟩

theorem Conducts.callsOf_eq {task : Task} {answer : Answer}
    (conducts : Conducts synchronizer state task calls answer next) :
    synchronizer.callsOf task state = calls := by
  have performed := (conducts.logged []).perform_eq
  rw [callsOf, performed, List.append_nil, List.reverse_reverse]

/-- Over any service, the calls of a task, its answer and the state that it
leaves are those of the conduct of a synchronizer. -/
theorem conducts_iff_perform {State : Type} (synchronizer : Synchronizer State)
    (state : State) (task : Task) (calls : List Call) (answer : Answer)
    (next : State) :
    Conducts synchronizer state task calls answer next ↔
      synchronizer.perform task state = (answer, next) ∧
        synchronizer.callsOf task state = calls := by
  constructor
  · intro conducts
    exact ⟨conducts.perform_eq, conducts.callsOf_eq⟩
  · rintro ⟨performed, rfl⟩
    obtain ⟨calls, other, last, conducts⟩ :=
      exists_conducts synchronizer state task
    obtain ⟨rfl, rfl⟩ := Prod.mk.inj (performed.symm.trans conducts.perform_eq)
    rwa [conducts.callsOf_eq]

end Synchronizer

end ScheduledJobs
