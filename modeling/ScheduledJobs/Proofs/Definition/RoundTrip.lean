import ScheduledJobs.Definition.Reading
import ScheduledJobs.Definition.Writing
import ScheduledJobs.Proofs.Document.FormReading

/-!
# Definitions are read back

A definition that is written is read back as it is, but for names of kinds that
are those of known kinds in other letters.
-/

namespace ScheduledJobs.Definition

open Document

/-- Whether the kind is the one that its name denotes. -/
def ActionKind.IsCanonical (kind : ActionKind) : Prop :=
  ofName kind.name = kind

/-- Whether the kind is the one that its name denotes. -/
def RetryKind.IsCanonical (kind : RetryKind) : Prop :=
  ofName kind.name = kind

/-- Whether the kind of the error action is the one that its name denotes. -/
def ErrorAction.IsCanonical (action : ErrorAction) : Prop :=
  ∀ kind ∈ action.kind, kind.IsCanonical

/-- Whether the kind of the policy is the one that its name denotes. -/
def RetryPolicy.IsCanonical (policy : RetryPolicy) : Prop :=
  ∀ kind ∈ policy.kind, kind.IsCanonical

/-- Whether all kinds in the action are the ones that their names denote. -/
structure Action.IsCanonical (action : Action) : Prop where
  kind : ∀ kind ∈ action.kind, kind.IsCanonical
  retryPolicy : ∀ policy ∈ action.retryPolicy, policy.IsCanonical
  errorAction : ∀ error ∈ action.errorAction, error.IsCanonical

/-- Whether all kinds in the properties are the ones that their names
denote. -/
def Properties.IsCanonical (properties : Properties) : Prop :=
  ∀ action ∈ properties.action, action.IsCanonical

/-- Whether all kinds in the definition are the ones that their names
denote. -/
def IsCanonical (definition : Definition) : Prop :=
  ∀ properties ∈ definition.properties, properties.IsCanonical

/-- The kind that the name of the kind denotes. -/
def ActionKind.respelled (kind : ActionKind) : ActionKind := ofName kind.name

/-- The kind that the name of the kind denotes. -/
def RetryKind.respelled (kind : RetryKind) : RetryKind := ofName kind.name

/-- The policy with the kind that its name denotes. -/
def RetryPolicy.respelled (policy : RetryPolicy) : RetryPolicy :=
  { policy with kind := policy.kind.map RetryKind.respelled }

/-- The error action with the kind that its name denotes. -/
def ErrorAction.respelled (action : ErrorAction) : ErrorAction :=
  { action with kind := action.kind.map ActionKind.respelled }

/-- The action with all kinds that their names denote. -/
def Action.respelled (action : Action) : Action :=
  { action with
    kind := action.kind.map ActionKind.respelled
    retryPolicy := action.retryPolicy.map RetryPolicy.respelled
    errorAction := action.errorAction.map ErrorAction.respelled }

/-- The properties with all kinds that their names denote. -/
def Properties.respelled (properties : Properties) : Properties :=
  { properties with action := properties.action.map Action.respelled }

/-- The definition with all kinds that their names denote. -/
def respelled (definition : Definition) : Definition :=
  { definition with
    properties := definition.properties.map Properties.respelled }

theorem map_eq_self {α : Type} {part : Option α} {function : α → α}
    (keeps : ∀ given ∈ part, function given = given) :
    part.map function = part := by
  cases part with
  | none => rfl
  | some given => exact congrArg some (keeps given rfl)

theorem ActionKind.respelled_eq {kind : ActionKind}
    (canonical : kind.IsCanonical) : kind.respelled = kind := canonical

theorem RetryKind.respelled_eq {kind : RetryKind}
    (canonical : kind.IsCanonical) : kind.respelled = kind := canonical

theorem RetryPolicy.respelled_eq {policy : RetryPolicy}
    (canonical : policy.IsCanonical) : policy.respelled = policy := by
  rw [respelled, map_eq_self fun kind given =>
    RetryKind.respelled_eq (canonical kind given)]

theorem ErrorAction.respelled_eq {action : ErrorAction}
    (canonical : action.IsCanonical) : action.respelled = action := by
  rw [respelled, map_eq_self fun kind given =>
    ActionKind.respelled_eq (canonical kind given)]

theorem Action.respelled_eq {action : Action}
    (canonical : action.IsCanonical) : action.respelled = action := by
  rw [respelled,
    map_eq_self fun kind given =>
      ActionKind.respelled_eq (canonical.kind kind given),
    map_eq_self fun policy given =>
      RetryPolicy.respelled_eq (canonical.retryPolicy policy given),
    map_eq_self fun error given =>
      ErrorAction.respelled_eq (canonical.errorAction error given)]

theorem respelled_eq {definition : Definition}
    (canonical : definition.IsCanonical) :
    definition.respelled = definition := by
  rw [respelled, map_eq_self]
  intro properties given
  rw [Properties.respelled, map_eq_self]
  exact fun action isAction =>
    Action.respelled_eq (canonical properties given action isAction)

namespace Authentication

theorem filter_type_fieldEntries {fields : List (String × Option Value)}
    (apart : typeKey ∉ fields.map Prod.fst) :
    (Value.fieldEntries fields).filter (fun entry => entry.1 == typeKey) =
      [] := by
  rw [List.filter_eq_nil_iff]
  intro entry member isType
  have key := Value.mem_keys_of_mem_fieldEntries member
  rw [eq_of_beq isType] at key
  exact apart key

theorem filter_others_fieldEntries {fields : List (String × Option Value)}
    (apart : typeKey ∉ fields.map Prod.fst) :
    (Value.fieldEntries fields).filter (fun entry => entry.1 != typeKey) =
      Value.fieldEntries fields := by
  rw [List.filter_eq_self]
  intro entry member
  have key := Value.mem_keys_of_mem_fieldEntries member
  rw [bne_iff_ne]
  rintro equal
  rw [equal] at key
  exact apart key

/-- An authentication is read by its type from the fields besides the type. -/
theorem read_ofFields (type : String) (fields : List (String × Option Value))
    (apart : typeKey ∉ fields.map Prod.fst)
    (readable : ∀ field ∈ fields, ∀ value ∈ field.2, value.isReadable = true) :
    read (.ofFields ((typeKey, some (.text type)) :: fields)) =
      readAs type (.ofFields fields) := by
  have entries : Reader.entries
      (.ofFields ((typeKey, some (.text type)) :: fields)) =
        .ok ((typeKey, .text type) :: Value.fieldEntries fields) := rfl
  have single : ¬1 < (((typeKey, Value.text type) ::
      Value.fieldEntries fields).filter fun entry =>
        entry.1 == typeKey).length := by
    rw [List.filter_cons, filter_type_fieldEntries apart]
    simp
  have visited : ((typeKey, Value.text type) ::
      Value.fieldEntries fields).forM visit = .ok () := by
    apply Form.forM_eq_ok
    intro entry member
    rcases List.mem_cons.mp member with rfl | isField
    · rfl
    · obtain ⟨field, isGiven, written⟩ := List.mem_filterMap.mp isField
      obtain ⟨value, isValue, rfl⟩ := Option.map_eq_some_iff.mp written
      have different : field.1 ≠ typeKey := fun equal =>
        apart (equal ▸ List.mem_map_of_mem isGiven)
      simp [visit, different, readable field isGiven value isValue]
  have others : (((typeKey, Value.text type) ::
      Value.fieldEntries fields).filter fun entry => entry.1 != typeKey) =
        Value.fieldEntries fields := by
    rw [List.filter_cons, filter_others_fieldEntries apart]
    simp
  have written : Value.ofFields ((typeKey, some (.text type)) :: fields) =
      .table ((typeKey, .text type) :: Value.fieldEntries fields) := rfl
  rw [written] at entries ⊢
  unfold read
  simp only [entries, ok_bind, if_neg single, visited, others,
    SortedMap.lookup_entry, if_true]
  rfl

end Authentication

theorem BasicAuthentication.read_fields (given : BasicAuthentication) :
    form.read (.ofFields [
      ("username", given.username.map .text),
      ("password", given.password.map .text)]) = .ok given := by
  obtain ⟨username, password⟩ := given
  refine Form.readWith_ofFields (by simp) ?_ .refused
  refine .seq (.map ?_ mk) ?_
  · exact .optionalText (by simp)
  · exact .optionalText (by simp)

theorem CertificateAuthentication.read_fields
    (given : CertificateAuthentication) :
    form.read (.ofFields [
      ("pfx", given.pfx.map .text),
      ("password", given.password.map .text),
      ("certificateThumbprint", given.thumbprint.map .text),
      ("certificateExpirationDate", given.expiration.map .ofInstant),
      ("certificateSubjectName", given.subjectName.map .text)]) =
        .ok given := by
  obtain ⟨pfx, password, thumbprint, expiration, subjectName⟩ := given
  refine Form.readWith_ofFields (by simp) ?_ .refused
  refine .seq (.seq (.seq (.seq (.map ?_ mk) ?_) ?_) ?_) ?_
  · exact .optionalText (by simp)
  · exact .optionalText (by simp)
  · exact .optionalText (by simp)
  · exact .optionalInstant (by simp)
  · exact .optionalText (by simp)

theorem DirectoryAuthentication.read_fields
    (given : DirectoryAuthentication) :
    form.read (.ofFields [
      ("secret", given.secret.map .text),
      ("tenant", given.tenant.map .text),
      ("audience", given.audience.map .text),
      ("clientId", given.clientId.map .text)]) = .ok given := by
  obtain ⟨secret, tenant, audience, clientId⟩ := given
  refine Form.readWith_ofFields (by simp) ?_ .refused
  refine .seq (.seq (.seq (.map ?_ mk) ?_) ?_) ?_
  · exact .optionalText (by simp)
  · exact .optionalText (by simp)
  · exact .optionalText (by simp)
  · exact .optionalText (by simp)

theorem Authentication.read_toValue (authentication : Authentication) :
    Authentication.read authentication.toValue = .ok authentication := by
  cases authentication with
  | basic given =>
      have read := BasicAuthentication.read_fields given
      refine (read_ofFields "Basic" _ (by simp [typeKey]) ?_).trans
        (congrArg (Except.map Authentication.basic) read)
      simp +contextual [Value.isReadable]
  | certificate given =>
      have read := CertificateAuthentication.read_fields given
      refine (read_ofFields "ClientCertificate" _ (by simp [typeKey]) ?_).trans
        (congrArg (Except.map Authentication.certificate) read)
      simp +contextual [Value.isReadable, Value.ofInstant]
  | directory given =>
      have read := DirectoryAuthentication.read_fields given
      refine (read_ofFields "ActiveDirectoryOAuth" _ (by simp [typeKey])
        ?_).trans (congrArg (Except.map Authentication.directory) read)
      simp +contextual [Value.isReadable]
  | unknown => exact read_ofFields "Unknown" [] (by simp) (by simp)

theorem Authentication.recovers (authentication : Authentication) :
    Authentication.read.Recovers Authentication.toValue authentication :=
  ⟨read_toValue authentication, by cases authentication <;> exact nofun⟩

theorem ActionKind.read_name (kind : ActionKind) :
    ActionKind.read (.text kind.name) = .ok kind.respelled := rfl

theorem RetryKind.read_name (kind : RetryKind) :
    RetryKind.read (.text kind.name) = .ok kind.respelled := rfl

theorem Request.recovers (request : Request) :
    form.read.Recovers toValue request := by
  obtain ⟨authentication, uri, method, body, headers⟩ := request
  refine ⟨Form.readWith_ofFields (by simp) ?_ .refused, nofun⟩
  refine .seq (.seq (.seq (.seq (.map ?_ mk) ?_) ?_) ?_) ?_
  · exact .optional (by simp) fun item _ => Authentication.recovers item
  · exact .optionalText (by simp)
  · exact .optionalText (by simp)
  · exact .optionalText (by simp)
  · exact .optional (by simp) fun item _ => Reader.recovers_textTable item

theorem RetryPolicy.read_toValue (policy : RetryPolicy) :
    form.read policy.toValue = .ok policy.respelled := by
  obtain ⟨kind, interval, count⟩ := policy
  refine Form.readWith_ofFields (by simp) ?_ .refused
  refine .seq (.seq (.map ?_ mk) ?_) ?_
  · exact .optionalAs (by simp) fun item _ =>
      ⟨RetryKind.read_name item, nofun⟩
  · exact .optionalText (by simp)
  · exact .optionalInteger (by simp)

theorem ErrorAction.read_toValue (action : ErrorAction) :
    form.read action.toValue = .ok action.respelled := by
  obtain ⟨kind, request⟩ := action
  refine Form.readWith_ofFields (by simp) ?_ .refused
  refine .seq (.map ?_ mk) ?_
  · exact .optionalAs (by simp) fun item _ =>
      ⟨ActionKind.read_name item, nofun⟩
  · exact .optional (by simp) fun item _ => Request.recovers item

theorem Action.read_toValue (action : Action) :
    form.read action.toValue = .ok action.respelled := by
  obtain ⟨kind, request, retryPolicy, errorAction⟩ := action
  refine Form.readWith_ofFields (by simp) ?_ .refused
  refine .seq (.seq (.seq (.map ?_ mk) ?_) ?_) ?_
  · exact .optionalAs (by simp) fun item _ =>
      ⟨ActionKind.read_name item, nofun⟩
  · exact .optional (by simp) fun item _ => Request.recovers item
  · exact .optionalAs (by simp) fun item _ =>
      ⟨RetryPolicy.read_toValue item, nofun⟩
  · exact .optionalAs (by simp) fun item _ =>
      ⟨ErrorAction.read_toValue item, nofun⟩

theorem NumberedDay.recovers (numbered : NumberedDay) :
    form.read.Recovers toValue numbered := by
  obtain ⟨day, occurrence⟩ := numbered
  refine ⟨Form.readWith_ofFields (by simp) ?_ .refused, nofun⟩
  refine .seq (.map ?_ mk) ?_
  · exact .required (by simp) (Reader.recovers_text day).reads
  · exact .optionalInteger (by simp)

theorem Timetable.recovers (timetable : Timetable) :
    form.read.Recovers toValue timetable := by
  obtain ⟨weekDays, hours, minutes, monthDays, occurrences⟩ := timetable
  have numbers (items : List Int32) :=
    Reader.recovers_list fun item (_ : item ∈ items) =>
      Reader.recovers_integer item
  refine ⟨Form.readWith_ofFields (by simp) ?_ .refused, nofun⟩
  refine .seq (.seq (.seq (.seq (.map ?_ mk) ?_) ?_) ?_) ?_
  · exact .optional (by simp) fun items _ =>
      Reader.recovers_list fun item _ => Reader.recovers_text item
  · exact .optional (by simp) fun items _ => numbers items
  · exact .optional (by simp) fun items _ => numbers items
  · exact .optional (by simp) fun items _ => numbers items
  · exact .optional (by simp) fun items _ =>
      Reader.recovers_list fun item _ => NumberedDay.recovers item

theorem Repetition.recovers (repetition : Repetition) :
    form.read.Recovers toValue repetition := by
  obtain ⟨frequency, interval, count, endTime, timetable⟩ := repetition
  refine ⟨Form.readWith_ofFields (by simp) ?_ .refused, nofun⟩
  refine .seq (.seq (.seq (.seq (.map ?_ mk) ?_) ?_) ?_) ?_
  · exact .optionalText (by simp)
  · exact .optionalInteger (by simp)
  · exact .optionalInteger (by simp)
  · exact .optionalInstant (by simp)
  · exact .optional (by simp) fun item _ => Timetable.recovers item

theorem Properties.read_toValue (properties : Properties) :
    form.read properties.toValue = .ok properties.respelled := by
  obtain ⟨startTime, action, repetition, state⟩ := properties
  refine Form.readWith_ofFields (by simp) ?_ .refused
  refine .seq (.seq (.seq (.map ?_ mk) ?_) ?_) ?_
  · exact .optionalInstant (by simp)
  · exact .optionalAs (by simp) fun item _ =>
      ⟨Action.read_toValue item, nofun⟩
  · exact .optional (by simp) fun item _ => Repetition.recovers item
  · exact .optionalText (by simp)

/-- A definition is read back from the table that is written for it, with kinds
by their names. -/
theorem read_toValue_eq_respelled (definition : Definition) :
    read definition.toValue = .ok definition.respelled := by
  obtain ⟨id, name, resourceType, properties⟩ := definition
  refine Form.readWith_ofFields (by simp) ?_ .refused
  refine .seq (.seq (.seq (.map ?_ mk) ?_) ?_) ?_
  · exact .optionalText (by simp)
  · exact .optionalText (by simp)
  · exact .optionalText (by simp)
  · exact .optionalAs (by simp) fun item _ =>
      ⟨Properties.read_toValue item, nofun⟩

theorem read_toValue {definition : Definition}
    (canonical : definition.IsCanonical) :
    read definition.toValue = .ok definition := by
  rw [read_toValue_eq_respelled, respelled_eq canonical]

end ScheduledJobs.Definition
