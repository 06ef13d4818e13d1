import ScheduledJobs.Definition.Basic

/-!
# Secrets in definitions

Passwords, certificates with their private keys, and secrets of directory
clients are sent to the service and never given back.
-/

namespace ScheduledJobs.Definition

/-- The authentication without what only its owner may know. -/
def Authentication.withoutSecrets : Authentication → Authentication
  | .basic given => .basic { given with password := none }
  | .certificate given =>
      .certificate { given with pfx := none, password := none }
  | .directory given => .directory { given with secret := none }
  | .unknown => .unknown

/-- The request without secrets. -/
def Request.withoutSecrets (request : Request) : Request :=
  { request with
    authentication := request.authentication.map .withoutSecrets }

/-- The error action without secrets. -/
def ErrorAction.withoutSecrets (action : ErrorAction) : ErrorAction :=
  { action with request := action.request.map .withoutSecrets }

/-- The action without secrets, and its error action too. -/
def Action.withoutSecrets (action : Action) : Action :=
  { action with
    request := action.request.map .withoutSecrets
    errorAction := action.errorAction.map .withoutSecrets }

/-- The properties without secrets. -/
def Properties.withoutSecrets (properties : Properties) : Properties :=
  { properties with action := properties.action.map .withoutSecrets }

/-- The definition without secrets. -/
def withoutSecrets (definition : Definition) : Definition :=
  { definition with properties := definition.properties.map .withoutSecrets }

@[simp] theorem Authentication.withoutSecrets_withoutSecrets
    (authentication : Authentication) :
    authentication.withoutSecrets.withoutSecrets =
      authentication.withoutSecrets := by
  cases authentication <;> rfl

end ScheduledJobs.Definition
