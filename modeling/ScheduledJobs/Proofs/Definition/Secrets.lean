import ScheduledJobs.Definition.Secrets
import ScheduledJobs.Proofs.Definition.RoundTrip
import ScheduledJobs.Proofs.Exchange.Requests

/-! # Definitions that hold no secrets -/

namespace ScheduledJobs.Definition

theorem requests_respelled (definition : Definition) :
    definition.respelled.requests = definition.requests := by
  have request (action? : Option Action) :
      (action?.map Action.respelled).bind Action.request =
        action?.bind Action.request := by
    cases action? <;> rfl
  have errorAction (action? : Option Action) :
      ((action?.map Action.respelled).bind Action.errorAction).bind
          ErrorAction.request =
        (action?.bind Action.errorAction).bind ErrorAction.request := by
    cases action? with
    | none => rfl
    | some action => cases given : action.errorAction <;>
        simp [Action.respelled, ErrorAction.respelled, given]
  obtain ⟨id, name, resourceType, properties⟩ := definition
  cases properties with
  | none => rfl
  | some properties =>
      simp only [requests, respelled, Properties.respelled, Option.map_some,
        Option.bind_some, request, errorAction]

/-- Whether the authentication has none of the parts that only its owner may
know. -/
def Authentication.HoldsNoSecret : Authentication → Prop
  | .basic given => given.password = none
  | .certificate given => given.pfx = none ∧ given.password = none
  | .directory given => given.secret = none
  | .unknown => True

theorem Authentication.holdsNoSecret_withoutSecrets
    (authentication : Authentication) :
    authentication.withoutSecrets.HoldsNoSecret := by
  cases authentication with
  | basic given => rfl
  | certificate given => exact ⟨rfl, rfl⟩
  | directory given => rfl
  | unknown => trivial

/-- Whether no request of the definition holds a secret. -/
def HoldsNoSecret (definition : Definition) : Prop :=
  ∀ request ∈ definition.requests,
    ∀ authentication ∈ request.authentication, authentication.HoldsNoSecret

/-- What is read back of a definition without secrets holds no secret. -/
theorem HoldsNoSecret.respelled {definition : Definition}
    (noSecret : definition.HoldsNoSecret) :
    definition.respelled.HoldsNoSecret := by
  rwa [HoldsNoSecret, requests_respelled]

end ScheduledJobs.Definition
