import ScheduledJobs.Job.Validation
import ScheduledJobs.Proofs.Job.Identity

/-!
# Jobs that differ in secrets alone

Two jobs agree in public when nothing tells them apart but passwords, secrets
of directory clients, and certificates with one fingerprint.
-/

namespace ScheduledJobs

open Text

/-- Whether credentials differ in secrets alone. -/
inductive Credentials.AgreeInPublic : Credentials → Credentials → Prop where
  | basic (username password other : String) :
      AgreeInPublic (.basic { username, password })
        (.basic { username, password := other })
  | certificate {pfx otherPfx : String}
      (sameFingerprint : Fingerprint.ofOctets (Utf8.encode pfx) =
        Fingerprint.ofOctets (Utf8.encode otherPfx))
      (password other : String) (thumbprint : Option String)
      (expiration : Option Instant) (subjectName : Option String) :
      AgreeInPublic
        (.certificate { pfx, password, thumbprint, expiration, subjectName })
        (.certificate {
          pfx := otherPfx
          password := other
          thumbprint, expiration, subjectName })
  | directory (tenantId clientId secret other : String)
      (audience : Option String) :
      AgreeInPublic (.directory { tenantId, clientId, secret, audience })
        (.directory { tenantId, clientId, secret := other, audience })

/-- Whether actions differ in the secrets of their credentials alone. -/
structure WebAction.AgreeInPublic (first second : WebAction) : Prop where
  url : first.url = second.url
  method : first.method = second.method
  body : first.body = second.body
  headers : first.headers = second.headers
  credentials :
    Option.Rel Credentials.AgreeInPublic first.credentials second.credentials

/-- Whether jobs differ in the secrets of their actions alone. -/
structure Job.AgreeInPublic (first second : Job) : Prop where
  name : first.name = second.name
  resourceGroup : first.resourceGroup = second.resourceGroup
  collection : first.collection = second.collection
  action : Option.Rel WebAction.AgreeInPublic first.action second.action
  errorAction :
    Option.Rel WebAction.AgreeInPublic first.errorAction second.errorAction
  retry : first.retry = second.retry
  recurrence : first.recurrence = second.recurrence
  startTime : first.startTime = second.startTime
  state : first.state = second.state

theorem map_eq_map_of_rel {α β : Type} {related : α → α → Prop}
    {first second : Option α} (rel : Option.Rel related first second)
    {function : α → β}
    (same : ∀ {one other}, related one other → function one = function other) :
    first.map function = second.map function := by
  cases rel with
  | none => rfl
  | some agree => exact congrArg some (same agree)

theorem isSome_eq_of_rel {α : Type} {related : α → α → Prop}
    {first second : Option α} (rel : Option.Rel related first second) :
    first.isSome = second.isSome := by
  cases rel <;> rfl

theorem WebAction.AgreeInPublic.violations {first second : WebAction}
    (agree : first.AgreeInPublic second) (key : String) :
    first.violations key = second.violations key := by
  simp only [WebAction.violations, agree.url, agree.method]

namespace Job.AgreeInPublic

variable {first second : Job}

theorem samePlace (agree : first.AgreeInPublic second) :
    first.SamePlace second :=
  ⟨agree.resourceGroup, agree.collection, agree.name⟩

theorem violations (agree : first.AgreeInPublic second) :
    first.violations = second.violations := by
  have isSome := isSome_eq_of_rel agree.action
  have actions {one other : Option WebAction}
      (rel : Option.Rel WebAction.AgreeInPublic one other) (key : String) :
      one.elim [] (WebAction.violations key) =
        other.elim [] (WebAction.violations key) := by
    cases rel with
    | none => rfl
    | some agree => exact agree.violations key
  simp only [Job.violations, structureViolations, fieldViolations, isSome,
    actions agree.action, actions agree.errorAction, agree.name,
    agree.resourceGroup, agree.collection, agree.retry, agree.recurrence,
    agree.state]

end Job.AgreeInPublic

end ScheduledJobs
