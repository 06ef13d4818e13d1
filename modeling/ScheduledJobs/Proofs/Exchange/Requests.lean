import ScheduledJobs.Exchange.Outgoing

/-! # Requests of definitions -/

namespace ScheduledJobs

namespace Definition

/-- The requests of a definition: that of the main action and that of the error
action, when they are given. -/
def requests (definition : Definition) : List Request :=
  let action? := definition.properties.bind Properties.action
  (action?.bind Action.request).toList ++
    ((action?.bind Action.errorAction).bind ErrorAction.request).toList

end Definition

namespace Job

/-- The actions of a job, the main one first. -/
def webActions (job : Job) : List WebAction :=
  job.action.toList ++ job.errorAction.toList

theorem requests_toDefinition (environment : Environment) (now : Instant)
    (job : Job) :
    (job.toDefinition environment now).requests =
      job.webActions.map (WebAction.toRequest environment) := by
  cases action : job.action <;> cases errorAction : job.errorAction <;>
    simp [toDefinition, toAction, Definition.requests, webActions, action,
      errorAction]

end Job

end ScheduledJobs
