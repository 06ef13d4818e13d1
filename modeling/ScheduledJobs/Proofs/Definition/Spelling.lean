import ScheduledJobs.Proofs.Definition.Reading

/-!
# The spelling of what has been read

What a document gives for a field is compared with what the document that is
written for the same definition gives for it.
-/

namespace ScheduledJobs

open Document

section

variable {α β γ δ : Type} {related : α → β → Prop} {first : Option α}
  {second : Option β}

theorem rel_map_of_rel {turned : α → γ → Prop}
    (rel : Option.Rel related first second) {function : β → γ}
    (turns : ∀ {one other}, related one other → turned one (function other)) :
    Option.Rel turned first (second.map function) := by
  cases rel with
  | none => exact .none
  | some isRelated => exact .some (turns isRelated)

theorem rel_bind_of_rel {next : γ → δ → Prop}
    (rel : Option.Rel related first second) {left : α → Option γ}
    {right : β → Option δ}
    (relates : ∀ {one other}, related one other →
      Option.Rel next (left one) (right other)) :
    Option.Rel next (first.bind left) (second.bind right) := by
  cases rel with
  | none => exact .none
  | some isRelated => exact relates isRelated

theorem rel_map_map_of_rel {written : α → γ → Prop} {write : β → γ}
    (rel : Option.Rel written first (second.map write)) {function : β → β}
    (keeps : ∀ {one other}, written one (write other) →
      written one (write (function other))) :
    Option.Rel written first ((second.map function).map write) := by
  cases second with
  | none => exact rel
  | some other =>
      cases rel with
      | some isWritten => exact .some (keeps isWritten)

end

namespace Definition

/-- Whether a name is written for a given one: the known name that agrees with
it up to the case of ASCII letters, or the given name when there is none. -/
inductive SpelledAs (known : List String) : Value → Value → Prop
  | known {name given : String} (isKnown : name ∈ known)
      (agrees : Text.caselessEq name given = true) :
      SpelledAs known (.text given) (.text name)
  | verbatim {given : String}
      (isUnknown : ∀ name ∈ known, Text.caselessEq name given = false) :
      SpelledAs known (.text given) (.text given)

/-- The names of the known kinds of actions. -/
def ActionKind.names : List String :=
  ["Http", "Https", "StorageQueue", "ServiceBusQueue", "ServiceBusTopic"]

/-- The names of the known kinds of retries. -/
def RetryKind.names : List String := ["None", "Fixed"]

/-- A kind is written for a name when it is a known one whose name agrees with
it, or has the name itself and there is no such kind. -/
theorem SpelledAs.of_cases {Kind : Type} {known : List Kind} {kind : Kind}
    {nameOf : Kind → String} {given : String}
    (denotes : (kind ∈ known ∧
        Text.caselessEq (nameOf kind) given = true) ∨
      (nameOf kind = given ∧
        ∀ other ∈ known, Text.caselessEq (nameOf other) given = false)) :
    SpelledAs (known.map nameOf) (.text given) (.text (nameOf kind)) := by
  rcases denotes with ⟨isKnown, agrees⟩ | ⟨isGiven, isUnknown⟩
  · exact .known (List.mem_map_of_mem isKnown) agrees
  · rw [isGiven]
    exact .verbatim (List.forall_mem_map.mpr isUnknown)

theorem ActionKind.spelledAs_ofName (name : String) :
    SpelledAs names (.text name) (.text (ofName name).name) := by
  refine SpelledAs.of_cases ((ofName_cases name).imp_right ?_)
  rintro ⟨isOther, isUnknown⟩
  exact ⟨by rw [isOther]; rfl, isUnknown⟩

theorem RetryKind.spelledAs_ofName (name : String) :
    SpelledAs names (.text name) (.text (ofName name).name) := by
  refine SpelledAs.of_cases ((ofName_cases name).imp_right ?_)
  rintro ⟨isOther, isUnknown⟩
  exact ⟨by rw [isOther]; rfl, isUnknown⟩

theorem ActionKind.spelledAs_of_read {given : Value} {kind : ActionKind}
    (reads : read given = .ok kind) :
    SpelledAs names given (.text kind.name) := by
  obtain ⟨name, isText, rfl⟩ := eq_ok_of_map_eq_ok reads
  obtain rfl := Reader.text_eq_ok_iff.mp isText
  exact spelledAs_ofName name

theorem RetryKind.spelledAs_of_read {given : Value} {kind : RetryKind}
    (reads : read given = .ok kind) :
    SpelledAs names given (.text kind.name) := by
  obtain ⟨name, isText, rfl⟩ := eq_ok_of_map_eq_ok reads
  obtain rfl := Reader.text_eq_ok_iff.mp isText
  exact spelledAs_ofName name

namespace Authentication

/-- The types that are recognised. -/
def types : List String :=
  ["Basic", "ClientCertificate", "ActiveDirectoryOAuth"]

/-- The type that a document gives for an authentication: the first item of a
list, or the entry of a table. -/
def type? : Value → Option Value
  | .list items => items.head?
  | document => document.get? "type"

/-- Whether an authentication is written for a given one: with the same type
when it is recognised, and otherwise as an unknown one, as which it was read. -/
inductive IsWrittenFor : Value → Value → Prop
  | recognised {given written : Value} {type : String}
      (isType : type? given = some (.text type)) (isRecognised : type ∈ types)
      (staysType : type? written = some (.text type)) :
      IsWrittenFor given written
  | unknown {given : Value} {type : String}
      (isType : type? given = some (.text type)) (isUnknown : type ∉ types)
      (reads : read given = .ok .unknown) :
      IsWrittenFor given (.table [("type", .text "Unknown")])

/-- The type under which an authentication is written. -/
def typeName : Authentication → String
  | .basic _ => "Basic"
  | .certificate _ => "ClientCertificate"
  | .directory _ => "ActiveDirectoryOAuth"
  | .unknown => "Unknown"

theorem type?_toValue (authentication : Authentication) :
    type? authentication.toValue = some (.text authentication.typeName) := by
  cases authentication <;> rfl

theorem eq_unknown_of_typeName {authentication : Authentication}
    (isUnknown : authentication.typeName = "Unknown") :
    authentication = .unknown := by
  cases authentication with
  | unknown => rfl
  | _ => simp [typeName] at isUnknown

/-- The part besides the type is read as the type says. -/
theorem readAs_cases {type : String} {document : Value}
    {authentication : Authentication}
    (reads : readAs type document = .ok authentication) :
    (type ∈ types ∧ authentication.typeName = type) ∨
      (type ∉ types ∧ authentication = .unknown) := by
  unfold readAs at reads
  split at reads
  · obtain ⟨given, -, rfl⟩ := eq_ok_of_map_eq_ok reads
    exact .inl ⟨by decide, rfl⟩
  · obtain ⟨given, -, rfl⟩ := eq_ok_of_map_eq_ok reads
    exact .inl ⟨by decide, rfl⟩
  · obtain ⟨given, -, rfl⟩ := eq_ok_of_map_eq_ok reads
    exact .inl ⟨by decide, rfl⟩
  · next notBasic notCertificate notDirectory =>
      have isUnknown : type ∉ types := by
        simp only [types, List.mem_cons, List.not_mem_nil, or_false, not_or]
        exact ⟨notBasic, notCertificate, notDirectory⟩
      split at reads
      · cases reads
      · exact .inr ⟨isUnknown, (Except.ok.inj reads).symm⟩

theorem type?_of_entries {document type : Value}
    {entries : List (String × Value)}
    (isTable : Reader.entries document = .ok entries)
    (found : entries.lookup typeKey = some type) :
    type? document = some type := by
  cases document with
  | table given =>
      obtain rfl := Except.ok.inj isTable
      exact found
  | moment content =>
      obtain rfl := Except.ok.inj isTable
      cases found
  | _ => cases isTable

/-- An authentication is read as its type says. -/
theorem exists_readAs_of_read {document : Value}
    {authentication : Authentication}
    (reads : read document = .ok authentication) :
    ∃ type rest, type? document = some (.text type) ∧
      readAs type rest = .ok authentication := by
  unfold read at reads
  split at reads
  · cases reads
  · next type items =>
      obtain ⟨name, isText, rest⟩ := eq_ok_of_bind_eq_ok reads
      obtain rfl := Reader.text_eq_ok_iff.mp isText
      split at rest
      · exact ⟨name, _, rfl, rest⟩
      · cases rest
  · next noList notEmpty =>
      obtain ⟨entries, isTable, rest⟩ := eq_ok_of_bind_eq_ok reads
      by_cases repeated : 1 < (entries.filter fun entry =>
          entry.1 == typeKey).length
      · simp only [if_pos repeated] at rest
        cases rest
      · simp only [if_neg repeated] at rest
        obtain ⟨-, -, rest⟩ := eq_ok_of_bind_eq_ok rest
        split at rest
        · cases rest
        · next type found =>
            obtain ⟨name, isText, rest⟩ := eq_ok_of_bind_eq_ok rest
            obtain rfl := Reader.text_eq_ok_iff.mp isText
            exact ⟨name, _, type?_of_entries isTable found, rest⟩

theorem isWrittenFor_of_read {given : Value} {authentication : Authentication}
    (reads : read given = .ok authentication) :
    IsWrittenFor given authentication.toValue := by
  obtain ⟨type, rest, isType, readsRest⟩ := exists_readAs_of_read reads
  rcases readAs_cases readsRest with ⟨isRecognised, sameType⟩ | ⟨unknown, rfl⟩
  · refine .recognised isType isRecognised ?_
    rw [type?_toValue, sameType]
  · exact .unknown isType unknown reads

/-- What is written for an authentication can stand for another one of the same
type. -/
theorem IsWrittenFor.of_typeName {given : Value}
    {authentication other : Authentication}
    (isWritten : IsWrittenFor given authentication.toValue)
    (sameType : other.typeName = authentication.typeName) :
    IsWrittenFor given other.toValue := by
  have type := type?_toValue authentication
  generalize authentication.toValue = written at isWritten type
  cases isWritten with
  | recognised isType isRecognised staysType =>
      refine .recognised isType isRecognised ?_
      rw [type?_toValue, sameType, ← type, staysType]
  | unknown isType isUnknown reads =>
      have isName : authentication.typeName = "Unknown" :=
        (Value.text.inj (Option.some.inj type)).symm
      obtain rfl := eq_unknown_of_typeName (sameType.trans isName)
      exact .unknown isType isUnknown reads

end Authentication

/-- Whether a request is written for a given one. -/
def Request.IsWrittenFor (given written : Value) : Prop :=
  Option.Rel Authentication.IsWrittenFor
    (form.given? given "authentication") (form.given? written "authentication")

/-- Whether a policy is written for a given one. -/
def RetryPolicy.IsWrittenFor (given written : Value) : Prop :=
  Option.Rel (SpelledAs RetryKind.names)
    (form.given? given "retryType") (form.given? written "retryType")

/-- Whether an error action is written for a given one. -/
structure ErrorAction.IsWrittenFor (given written : Value) : Prop where
  kind : Option.Rel (SpelledAs ActionKind.names)
    (form.given? given "type") (form.given? written "type")
  request : Option.Rel Request.IsWrittenFor
    (form.given? given "request") (form.given? written "request")

/-- Whether an action is written for a given one. -/
structure Action.IsWrittenFor (given written : Value) : Prop where
  kind : Option.Rel (SpelledAs ActionKind.names)
    (form.given? given "type") (form.given? written "type")
  request : Option.Rel Request.IsWrittenFor
    (form.given? given "request") (form.given? written "request")
  retryPolicy : Option.Rel RetryPolicy.IsWrittenFor
    (form.given? given "retryPolicy") (form.given? written "retryPolicy")
  errorAction : Option.Rel ErrorAction.IsWrittenFor
    (form.given? given "errorAction") (form.given? written "errorAction")

/-- The main action that a document gives for a definition. -/
def givenAction? (document : Value) : Option Value :=
  (form.given? document "properties").bind fun properties =>
    Properties.form.given? properties "action"

/-- Whether a document is written for a definition that another one gives: as
far as names of kinds and types of authentications go. -/
def IsWrittenFor (given written : Value) : Prop :=
  Option.Rel Action.IsWrittenFor (givenAction? given) (givenAction? written)

theorem Request.given?_authentication (request : Request) :
    form.given? request.toValue "authentication" =
      request.authentication.map Authentication.toValue :=
  Form.given?_ofFields form (by simp) (by simp) fun given => by
    cases given <;> rfl

theorem RetryPolicy.given?_kind (policy : RetryPolicy) :
    form.given? policy.toValue "retryType" =
      policy.kind.map fun kind => .text kind.name :=
  Form.given?_ofFields form (by simp) (by simp) fun _ => rfl

theorem ErrorAction.given?_kind (action : ErrorAction) :
    form.given? action.toValue "type" =
      action.kind.map fun kind => .text kind.name :=
  Form.given?_ofFields form (by simp) (by simp) fun _ => rfl

theorem ErrorAction.given?_request (action : ErrorAction) :
    form.given? action.toValue "request" =
      action.request.map Request.toValue :=
  Form.given?_ofFields form (by simp) (by simp) fun _ => rfl

theorem Action.given?_kind (action : Action) :
    form.given? action.toValue "type" =
      action.kind.map fun kind => .text kind.name :=
  Form.given?_ofFields form (by simp) (by simp) fun _ => rfl

theorem Action.given?_request (action : Action) :
    form.given? action.toValue "request" =
      action.request.map Request.toValue :=
  Form.given?_ofFields form (by simp) (by simp) fun _ => rfl

theorem Action.given?_retryPolicy (action : Action) :
    form.given? action.toValue "retryPolicy" =
      action.retryPolicy.map RetryPolicy.toValue :=
  Form.given?_ofFields form (by simp) (by simp) fun _ => rfl

theorem Action.given?_errorAction (action : Action) :
    form.given? action.toValue "errorAction" =
      action.errorAction.map ErrorAction.toValue :=
  Form.given?_ofFields form (by simp) (by simp) fun _ => rfl

theorem givenAction?_toValue (definition : Definition) :
    givenAction? definition.toValue =
      (definition.properties.bind Properties.action).map Action.toValue := by
  have properties : form.given? definition.toValue "properties" =
      definition.properties.map Properties.toValue :=
    Form.given?_ofFields form (by simp) (by simp) fun _ => rfl
  have action (given : Properties) :
      Properties.form.given? given.toValue "action" =
        given.action.map Action.toValue :=
    Form.given?_ofFields Properties.form (by simp) (by simp) fun _ => rfl
  rw [givenAction?, properties]
  cases definition.properties with
  | none => rfl
  | some given => exact action given

theorem Request.isWrittenFor_of_read {given : Value} {request : Request}
    (reads : form.read given = .ok request) :
    IsWrittenFor given request.toValue := by
  have finished := Form.finish_of_readWith reads
  obtain ⟨_, headers, rest₁, -, rfl⟩ := Form.finish_of_seq finished
  obtain ⟨_, body, rest₂, -, rfl⟩ := Form.finish_of_seq rest₁
  obtain ⟨_, method, rest₃, -, rfl⟩ := Form.finish_of_seq rest₂
  obtain ⟨_, uri, rest₄, -, rfl⟩ := Form.finish_of_seq rest₃
  obtain ⟨authentication, isRead, rfl⟩ := Form.finish_of_map rest₄
  rw [IsWrittenFor, given?_authentication]
  exact rel_map_of_rel (Form.rel_of_finish_optional isRead)
    Authentication.isWrittenFor_of_read

theorem RetryPolicy.isWrittenFor_of_read {given : Value}
    {policy : RetryPolicy} (reads : form.read given = .ok policy) :
    IsWrittenFor given policy.toValue := by
  have finished := Form.finish_of_readWith reads
  obtain ⟨_, count, rest₁, -, rfl⟩ := Form.finish_of_seq finished
  obtain ⟨_, interval, rest₂, -, rfl⟩ := Form.finish_of_seq rest₁
  obtain ⟨kind, isRead, rfl⟩ := Form.finish_of_map rest₂
  rw [IsWrittenFor, given?_kind]
  exact rel_map_of_rel (Form.rel_of_finish_optional isRead)
    RetryKind.spelledAs_of_read

theorem ErrorAction.isWrittenFor_of_read {given : Value} {action : ErrorAction}
    (reads : form.read given = .ok action) :
    IsWrittenFor given action.toValue := by
  have finished := Form.finish_of_readWith reads
  obtain ⟨_, request, rest, requestRead, rfl⟩ := Form.finish_of_seq finished
  obtain ⟨kind, kindRead, rfl⟩ := Form.finish_of_map rest
  constructor
  · rw [given?_kind]
    exact rel_map_of_rel (Form.rel_of_finish_optional kindRead)
      ActionKind.spelledAs_of_read
  · rw [given?_request]
    exact rel_map_of_rel (Form.rel_of_finish_optional requestRead)
      Request.isWrittenFor_of_read

theorem Action.isWrittenFor_of_read {given : Value} {action : Action}
    (reads : form.read given = .ok action) :
    IsWrittenFor given action.toValue := by
  have finished := Form.finish_of_readWith reads
  obtain ⟨_, error, rest₁, errorRead, rfl⟩ := Form.finish_of_seq finished
  obtain ⟨_, policy, rest₂, policyRead, rfl⟩ := Form.finish_of_seq rest₁
  obtain ⟨_, request, rest₃, requestRead, rfl⟩ := Form.finish_of_seq rest₂
  obtain ⟨kind, kindRead, rfl⟩ := Form.finish_of_map rest₃
  constructor
  · rw [given?_kind]
    exact rel_map_of_rel (Form.rel_of_finish_optional kindRead)
      ActionKind.spelledAs_of_read
  · rw [given?_request]
    exact rel_map_of_rel (Form.rel_of_finish_optional requestRead)
      Request.isWrittenFor_of_read
  · rw [given?_retryPolicy]
    exact rel_map_of_rel (Form.rel_of_finish_optional policyRead)
      RetryPolicy.isWrittenFor_of_read
  · rw [given?_errorAction]
    exact rel_map_of_rel (Form.rel_of_finish_optional errorRead)
      ErrorAction.isWrittenFor_of_read

theorem Properties.rel_action_of_read {given : Value} {properties : Properties}
    (reads : form.read given = .ok properties) :
    Option.Rel (fun value action => Action.form.read value = .ok action)
      (form.given? given "action") properties.action := by
  have finished := Form.finish_of_readWith reads
  obtain ⟨_, state, rest₁, -, rfl⟩ := Form.finish_of_seq finished
  obtain ⟨_, repetition, rest₂, -, rfl⟩ := Form.finish_of_seq rest₁
  obtain ⟨_, action, rest₃, isRead, rfl⟩ := Form.finish_of_seq rest₂
  obtain ⟨startTime, -, rfl⟩ := Form.finish_of_map rest₃
  exact Form.rel_of_finish_optional isRead

/-- A definition is written in the spelling of the document that it is read
from. -/
theorem isWrittenFor_of_read {given : Value} {definition : Definition}
    (reads : read given = .ok definition) :
    IsWrittenFor given definition.toValue := by
  have finished := Form.finish_of_readWith reads
  obtain ⟨_, properties, rest₁, isRead, rfl⟩ := Form.finish_of_seq finished
  obtain ⟨_, resourceType, rest₂, -, rfl⟩ := Form.finish_of_seq rest₁
  obtain ⟨_, name, rest₃, -, rfl⟩ := Form.finish_of_seq rest₂
  obtain ⟨id, -, rfl⟩ := Form.finish_of_map rest₃
  rw [IsWrittenFor, givenAction?_toValue]
  exact rel_map_of_rel
    (rel_bind_of_rel (Form.rel_of_finish_optional isRead)
      Properties.rel_action_of_read)
    Action.isWrittenFor_of_read

end Definition

end ScheduledJobs
