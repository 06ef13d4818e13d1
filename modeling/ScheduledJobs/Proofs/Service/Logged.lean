import ScheduledJobs.Service.Script

/-! # Services that keep a log -/

namespace ScheduledJobs

variable {State α : Type}

namespace Service

/-- Make a call and put it in front of the log. -/
def logging (call : Call) (perform : State → α × State)
    (logged : State × List Call) : α × (State × List Call) :=
  ((perform logged.1).1, ((perform logged.1).2, call :: logged.2))

/-- The service with a log of the calls on it, the last one first. -/
def logged (service : Service State) : Service (State × List Call) where
  createOrUpdate id definition :=
    logging (.createOrUpdate id definition)
      (service.createOrUpdate id definition)
  get id := logging (.get id) (service.get id)
  delete id := logging (.delete id) (service.delete id)

/-- Whether a computation over a logged service is the one over the service
itself, and makes only calls of a certain kind. -/
def RunsAs (allowed : Call → Prop)
    (logged : State × List Call → α × (State × List Call))
    (plain : State → α × State) : Prop :=
  ∀ state calls, ∃ made,
    logged (state, calls) =
        ((plain state).1, ((plain state).2, made ++ calls)) ∧
      ∀ call ∈ made, allowed call

end Service

end ScheduledJobs
