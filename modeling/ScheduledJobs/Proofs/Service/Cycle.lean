import ScheduledJobs.Proofs.Definition.Plain
import ScheduledJobs.Proofs.Definition.Spelling
import ScheduledJobs.Proofs.Document.Json.Cycle
import ScheduledJobs.Proofs.Synchronizer.Emulated

/-!
# Definitions survive a cycle through JSON

A definition comes back from a cycle as it was, in the spelling of the document
that it arose with.
-/

namespace ScheduledJobs

open Document Definition

namespace Emulator

variable {given : Value}

theorem typeName_sealed (name : String) (expiry : Instant)
    (authentication : Authentication) :
    (withDetails name expiry authentication).withoutSecrets.typeName =
      authentication.typeName := by
  cases authentication with
  | certificate sent =>
      obtain ⟨pfx, password, thumbprint, expiration, subjectName⟩ := sent
      cases pfx <;> rfl
  | _ => rfl

theorem isWrittenFor_sealedRequest {request : Request}
    (isWritten : Request.IsWrittenFor given request.toValue) (name : String)
    (expiry : Instant) :
    Request.IsWrittenFor given (sealedRequest name expiry request).toValue := by
  rw [Request.IsWrittenFor, Request.given?_authentication] at isWritten ⊢
  exact rel_map_map_of_rel isWritten fun isWritten =>
    isWritten.of_typeName (typeName_sealed name expiry _)

theorem isWrittenFor_sealedErrorAction {action : ErrorAction}
    (isWritten : ErrorAction.IsWrittenFor given action.toValue) (name : String)
    (expiry : Instant) :
    ErrorAction.IsWrittenFor given
      (sealedErrorAction name expiry action).toValue := by
  obtain ⟨kind, request⟩ := isWritten
  rw [ErrorAction.given?_kind] at kind
  rw [ErrorAction.given?_request] at request
  constructor
  · rwa [ErrorAction.given?_kind]
  · rw [ErrorAction.given?_request]
    exact rel_map_map_of_rel request fun isWritten =>
      isWrittenFor_sealedRequest isWritten name expiry

theorem isWrittenFor_sealedAction {action : Action}
    (isWritten : Action.IsWrittenFor given action.toValue) (name : String)
    (expiry : Instant) :
    Action.IsWrittenFor given (sealedAction name expiry action).toValue := by
  obtain ⟨kind, request, retryPolicy, errorAction⟩ := isWritten
  rw [Action.given?_kind] at kind
  rw [Action.given?_request] at request
  rw [Action.given?_retryPolicy] at retryPolicy
  rw [Action.given?_errorAction] at errorAction
  constructor
  · rwa [Action.given?_kind]
  · rw [Action.given?_request]
    exact rel_map_map_of_rel request fun isWritten =>
      isWrittenFor_sealedRequest isWritten name expiry
  · rwa [Action.given?_retryPolicy]
  · rw [Action.given?_errorAction]
    exact rel_map_map_of_rel errorAction fun isWritten =>
      isWrittenFor_sealedErrorAction isWritten name expiry

theorem action_stored (id : JobId) (expiry : Instant)
    (definition : Definition) :
    (stored id expiry definition).properties.bind Properties.action =
      (definition.properties.bind Properties.action).map
        (sealedAction id.name expiry) := by
  obtain ⟨given, name, resourceType, properties⟩ := definition
  cases properties <;> rfl

theorem isWrittenFor_stored {definition : Definition}
    (isWritten : Definition.IsWrittenFor given definition.toValue) (id : JobId)
    (expiry : Instant) :
    Definition.IsWrittenFor given (stored id expiry definition).toValue := by
  rw [Definition.IsWrittenFor, givenAction?_toValue] at isWritten ⊢
  rw [action_stored]
  exact rel_map_map_of_rel isWritten fun isWritten =>
    isWrittenFor_sealedAction isWritten id.name expiry

end Emulator

namespace Definition

/-- How a definition arises, with the document that gives the spelling of its
parts. -/
inductive Arises : Value → Definition → Prop
  /-- A definition is read from a document. -/
  | read {document : Value} {definition : Definition}
      (reads : Definition.read document = .ok definition) :
      Arises document definition
  /-- The emulator stores what it makes of a definition. -/
  | stored {document : Value} {definition : Definition}
      (arises : Arises document definition) (id : JobId) (expiry : Instant) :
      Arises document (Emulator.stored id expiry definition)
  /-- A definition is sent for a job. -/
  | sent (job : Job) (environment : Environment) (now : Instant) :
      Arises (job.toDefinition environment now).toValue
        (job.toDefinition environment now)

/-- Whether a definition comes back from a cycle as it was, and is written in
the spelling of a document. -/
structure IsStable (document : Value) (definition : Definition) : Prop where
  survives : Json.Survives Definition.read toValue definition
  isWritten : IsWrittenFor document definition.toValue

section

variable {document : Value} {definition : Definition}

theorem isCanonical_of_arises (arises : Arises document definition) :
    definition.IsCanonical := by
  induction arises with
  | read reads => exact isCanonical_of_read reads
  | stored _ id expiry canonical =>
      exact Emulator.isCanonical_stored canonical id expiry
  | sent job environment now =>
      exact job.isCanonical_toDefinition environment now

theorem isWrittenFor_of_arises (arises : Arises document definition) :
    IsWrittenFor document definition.toValue := by
  induction arises with
  | read reads => exact isWrittenFor_of_read reads
  | stored _ id expiry isWritten =>
      exact Emulator.isWrittenFor_stored isWritten id expiry
  | sent job environment now =>
      have canonical := job.isCanonical_toDefinition environment now
      exact isWrittenFor_of_read (read_toValue canonical)

/-- Every definition that arises is stable. -/
theorem isStable_of_arises (arises : Arises document definition) :
    IsStable document definition where
  survives :=
    Json.survives_of_fitsIn (definition.fitsIn_toValue.mono (by decide))
      (read_toValue (isCanonical_of_arises arises))
  isWritten := isWrittenFor_of_arises arises

end

/-- A definition in an unusual spelling, as JSON. -/
def unusualText : String :=
  "\x7b\"properties\":\x7b\"action\":\x7b\"type\":\"hTTPs\"," ++
  "\"request\":\x7b\"authentication\":" ++
  "\x7b\"type\":\"basic\",\"username\":\"me\"\x7d\x7d," ++
  "\"retryPolicy\":\x7b\"retryType\":\"FIXED\"\x7d," ++
  "\"errorAction\":\x7b\"type\":\"telegram\"\x7d\x7d\x7d\x7d"

/-- The definition of the text. -/
def unusual : Definition where
  properties := some {
    action := some {
      kind := some .https
      request := some { authentication := some .unknown }
      retryPolicy := some { kind := some .fixed }
      errorAction := some { kind := some (.other "telegram") } } }

/-- The definition in an unusual spelling is stable as it is and as it is
stored. -/
theorem isStable_unusual :
    ∃ document, Json.parse? unusualText = some document ∧
      Definition.read document = .ok unusual ∧
      IsStable document unusual ∧
      IsStable document
        (Emulator.stored ⟨"main", "group", "daily", "report"⟩ .epoch
          unusual) := by
  have isRead : (Json.parse? unusualText).any (fun document =>
      (Definition.read document).toOption = some unusual) = true := by
    decide +kernel
  obtain ⟨document, parsed, reads⟩ := Option.any_eq_true _ _ |>.mp isRead
  have reads := eq_ok_of_toOption_eq_some (of_decide_eq_true reads)
  exact ⟨document, parsed, reads, isStable_of_arises (.read reads),
    isStable_of_arises (.stored (.read reads) _ _)⟩

end Definition

end ScheduledJobs
