import Mathlib.Tactic.MkIffOfInductiveProp
import ScheduledJobs.Exchange.Incoming
import ScheduledJobs.Proofs.Definition.Secrets
import ScheduledJobs.Proofs.Job.Secrets

/-!
# Definitions without their secrets

Taking the secrets out of a definition leaves the only one that holds no secret
and agrees with it in everything else.
-/

namespace ScheduledJobs.Definition

/-- Whether authentications differ in secrets alone; any of those may be
missing. -/
inductive Authentication.AgreeInPublic :
    Authentication → Authentication → Prop where
  | basic {first second : BasicAuthentication}
      (username : first.username = second.username) :
      AgreeInPublic (.basic first) (.basic second)
  | certificate {first second : CertificateAuthentication}
      (thumbprint : first.thumbprint = second.thumbprint)
      (expiration : first.expiration = second.expiration)
      (subjectName : first.subjectName = second.subjectName) :
      AgreeInPublic (.certificate first) (.certificate second)
  | directory {first second : DirectoryAuthentication}
      (tenant : first.tenant = second.tenant)
      (audience : first.audience = second.audience)
      (clientId : first.clientId = second.clientId) :
      AgreeInPublic (.directory first) (.directory second)
  | unknown : AgreeInPublic .unknown .unknown

/-- Whether requests differ in the secrets of their authentication alone, and so
on for the parts that hold requests. -/
@[mk_iff]
structure Request.AgreeInPublic (first second : Request) : Prop where
  authentication : Option.Rel Authentication.AgreeInPublic
    first.authentication second.authentication
  uri : first.uri = second.uri
  method : first.method = second.method
  body : first.body = second.body
  headers : first.headers = second.headers

@[mk_iff]
structure ErrorAction.AgreeInPublic (first second : ErrorAction) : Prop where
  kind : first.kind = second.kind
  request : Option.Rel Request.AgreeInPublic first.request second.request

@[mk_iff]
structure Action.AgreeInPublic (first second : Action) : Prop where
  kind : first.kind = second.kind
  request : Option.Rel Request.AgreeInPublic first.request second.request
  retryPolicy : first.retryPolicy = second.retryPolicy
  errorAction : Option.Rel ErrorAction.AgreeInPublic
    first.errorAction second.errorAction

@[mk_iff]
structure Properties.AgreeInPublic (first second : Properties) : Prop where
  startTime : first.startTime = second.startTime
  action : Option.Rel Action.AgreeInPublic first.action second.action
  repetition : first.repetition = second.repetition
  state : first.state = second.state

/-- Whether definitions differ in the secrets of their requests alone. -/
@[mk_iff]
structure AgreeInPublic (first second : Definition) : Prop where
  id : first.id = second.id
  name : first.name = second.name
  resourceType : first.resourceType = second.resourceType
  properties : Option.Rel Properties.AgreeInPublic
    first.properties second.properties

/-- Optional parts are related as their parts are, when the relation is
equality under a function. -/
theorem rel_iff_map_eq_map {α β : Type} {related : α → α → Prop}
    {function : α → β}
    (same : ∀ one other, related one other ↔ function one = function other)
    (first second : Option α) :
    Option.Rel related first second ↔
      first.map function = second.map function := by
  constructor
  · intro rel
    exact map_eq_map_of_rel rel (same _ _).mp
  · intro equal
    rcases first with _ | one <;> rcases second with _ | other
    · exact .none
    · cases equal
    · cases equal
    · exact .some ((same one other).mpr (Option.some.inj equal))

theorem Authentication.agreeInPublic_iff_withoutSecrets_eq
    (first second : Authentication) :
    first.AgreeInPublic second ↔
      first.withoutSecrets = second.withoutSecrets := by
  constructor
  · intro agree
    cases agree <;> simp [withoutSecrets, *]
  · intro equal
    cases first <;> cases second <;>
      simp only [withoutSecrets, basic.injEq, certificate.injEq,
        directory.injEq, BasicAuthentication.mk.injEq,
        CertificateAuthentication.mk.injEq, DirectoryAuthentication.mk.injEq,
        true_and, and_true, reduceCtorEq] at equal
    · exact .basic equal
    · exact .certificate equal.1 equal.2.1 equal.2.2
    · exact .directory equal.1 equal.2.1 equal.2.2
    · exact .unknown

theorem Request.agreeInPublic_iff_withoutSecrets_eq
    (first second : Request) :
    first.AgreeInPublic second ↔
      first.withoutSecrets = second.withoutSecrets := by
  rw [agreeInPublic_iff, rel_iff_map_eq_map
    Authentication.agreeInPublic_iff_withoutSecrets_eq]
  simp only [withoutSecrets, mk.injEq]

theorem ErrorAction.agreeInPublic_iff_withoutSecrets_eq
    (first second : ErrorAction) :
    first.AgreeInPublic second ↔
      first.withoutSecrets = second.withoutSecrets := by
  rw [agreeInPublic_iff,
    rel_iff_map_eq_map Request.agreeInPublic_iff_withoutSecrets_eq]
  simp only [withoutSecrets, mk.injEq]

theorem Action.agreeInPublic_iff_withoutSecrets_eq (first second : Action) :
    first.AgreeInPublic second ↔
      first.withoutSecrets = second.withoutSecrets := by
  rw [agreeInPublic_iff,
    rel_iff_map_eq_map Request.agreeInPublic_iff_withoutSecrets_eq,
    rel_iff_map_eq_map ErrorAction.agreeInPublic_iff_withoutSecrets_eq]
  simp only [withoutSecrets, mk.injEq]

theorem Properties.agreeInPublic_iff_withoutSecrets_eq
    (first second : Properties) :
    first.AgreeInPublic second ↔
      first.withoutSecrets = second.withoutSecrets := by
  rw [agreeInPublic_iff,
    rel_iff_map_eq_map Action.agreeInPublic_iff_withoutSecrets_eq]
  simp only [withoutSecrets, mk.injEq]

/-- Definitions differ in secrets alone exactly when the same is left of both
without them. -/
theorem agreeInPublic_iff_withoutSecrets_eq (first second : Definition) :
    first.AgreeInPublic second ↔
      first.withoutSecrets = second.withoutSecrets := by
  rw [agreeInPublic_iff,
    rel_iff_map_eq_map Properties.agreeInPublic_iff_withoutSecrets_eq]
  simp only [withoutSecrets, mk.injEq]

@[simp] theorem Request.withoutSecrets_withoutSecrets (request : Request) :
    request.withoutSecrets.withoutSecrets = request.withoutSecrets := by
  simp [withoutSecrets, Function.comp_def]

@[simp] theorem ErrorAction.withoutSecrets_withoutSecrets
    (action : ErrorAction) :
    action.withoutSecrets.withoutSecrets = action.withoutSecrets := by
  simp [withoutSecrets, Function.comp_def]

@[simp] theorem Action.withoutSecrets_withoutSecrets (action : Action) :
    action.withoutSecrets.withoutSecrets = action.withoutSecrets := by
  simp [withoutSecrets, Function.comp_def]

@[simp] theorem Properties.withoutSecrets_withoutSecrets
    (properties : Properties) :
    properties.withoutSecrets.withoutSecrets = properties.withoutSecrets := by
  simp [withoutSecrets, Function.comp_def]

@[simp] theorem withoutSecrets_withoutSecrets (definition : Definition) :
    definition.withoutSecrets.withoutSecrets = definition.withoutSecrets := by
  simp [withoutSecrets, Function.comp_def]

theorem Authentication.withoutSecrets_eq_self {authentication : Authentication}
    (noSecret : authentication.HoldsNoSecret) :
    authentication.withoutSecrets = authentication := by
  rcases authentication with ⟨username, password⟩ |
      ⟨pfx, password, thumbprint, expiration, subjectName⟩ |
      ⟨secret, tenant, audience, clientId⟩ | _
  · obtain rfl : password = none := noSecret
    rfl
  · obtain ⟨rfl, rfl⟩ : pfx = none ∧ password = none := noSecret
    rfl
  · obtain rfl : secret = none := noSecret
    rfl
  · rfl

theorem Request.withoutSecrets_eq_self {request : Request}
    (noSecret : ∀ authentication ∈ request.authentication,
      authentication.HoldsNoSecret) :
    request.withoutSecrets = request := by
  obtain ⟨_ | authentication, uri, method, body, headers⟩ := request
  · rfl
  · have same := Authentication.withoutSecrets_eq_self
      (noSecret authentication rfl)
    simp only [withoutSecrets, Option.map_some, same]

theorem requests_withoutSecrets (definition : Definition) :
    definition.withoutSecrets.requests =
      definition.requests.map Request.withoutSecrets := by
  rcases definition with ⟨id, name, resourceType, _ | ⟨startTime,
    _ | ⟨kind, _ | request, retryPolicy, _ | ⟨errorKind, _ | error⟩⟩,
    repetition, state⟩⟩ <;> rfl

theorem holdsNoSecret_withoutSecrets (definition : Definition) :
    definition.withoutSecrets.HoldsNoSecret := by
  intro request member authentication given
  rw [requests_withoutSecrets] at member
  obtain ⟨sent, -, rfl⟩ := List.mem_map.mp member
  obtain ⟨proof, -, rfl⟩ := Option.map_eq_some_iff.mp given
  exact proof.holdsNoSecret_withoutSecrets

theorem withoutSecrets_eq_self {definition : Definition}
    (noSecret : definition.HoldsNoSecret) :
    definition.withoutSecrets = definition := by
  have same : ∀ request ∈ definition.requests,
      request.withoutSecrets = request := fun request member =>
    Request.withoutSecrets_eq_self (noSecret request member)
  rcases definition with ⟨id, name, resourceType, _ | ⟨startTime,
    _ | ⟨kind, _ | request, retryPolicy, _ | ⟨errorKind, _ | error⟩⟩,
    repetition, state⟩⟩
  all_goals
    simp_all [requests, withoutSecrets, Properties.withoutSecrets,
      Action.withoutSecrets, ErrorAction.withoutSecrets]

/-- The definition without secrets is the only one that agrees with the
definition in public and holds no secret. -/
theorem eq_withoutSecrets_iff {definition other : Definition} :
    other = definition.withoutSecrets ↔
      definition.AgreeInPublic other ∧ other.HoldsNoSecret := by
  rw [agreeInPublic_iff_withoutSecrets_eq]
  constructor
  · rintro rfl
    exact ⟨definition.withoutSecrets_withoutSecrets.symm,
      definition.holdsNoSecret_withoutSecrets⟩
  · rintro ⟨agree, noSecret⟩
    rw [agree, withoutSecrets_eq_self noSecret]

theorem Authentication.toCredentials?_withoutSecrets
    (authentication : Authentication) :
    authentication.withoutSecrets.toCredentials? =
      authentication.toCredentials? := by
  cases authentication <;> rfl

theorem Request.toWebAction_withoutSecrets (request : Request) :
    request.withoutSecrets.toWebAction = request.toWebAction := by
  simp only [toWebAction, withoutSecrets, Option.bind_map, Function.comp_def,
    Authentication.toCredentials?_withoutSecrets]

theorem Action.toWebAction?_withoutSecrets (action : Action) :
    action.withoutSecrets.toWebAction? = action.toWebAction? := by
  have same : Request.toWebAction ∘ Request.withoutSecrets =
      Request.toWebAction :=
    funext Request.toWebAction_withoutSecrets
  simp only [toWebAction?, withoutSecrets, Option.map_map, same]
  rfl

theorem Action.toErrorAction?_withoutSecrets (action : Action) :
    action.withoutSecrets.toErrorAction? = action.toErrorAction? := by
  simp only [toErrorAction?, isWeb, withoutSecrets, Option.map_map,
    Option.bind_map, Option.map_bind, Function.comp_def,
    ErrorAction.withoutSecrets, Request.toWebAction_withoutSecrets]

theorem Action.toRetry_withoutSecrets (action : Action) :
    action.withoutSecrets.toRetry = action.toRetry :=
  rfl

theorem toJob_withoutSecrets (id : JobId) (definition : Definition) :
    definition.withoutSecrets.toJob id = definition.toJob id := by
  rcases definition with ⟨given, name, resourceType,
    _ | ⟨startTime, action, repetition, state⟩⟩
  · rfl
  · simp only [toJob, withoutSecrets, Option.map_some,
      Properties.withoutSecrets, Option.bind_map, Option.elim_map,
      Function.comp_def, Action.toWebAction?_withoutSecrets,
      Action.toErrorAction?_withoutSecrets, Action.toRetry_withoutSecrets]

end ScheduledJobs.Definition
