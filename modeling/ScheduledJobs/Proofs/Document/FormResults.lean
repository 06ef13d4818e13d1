import ScheduledJobs.Document.Form
import ScheduledJobs.Proofs.Results

/-! # Where the fields of a record come from -/

namespace ScheduledJobs.Document

variable {α β : Type}

theorem Reader.text_eq_ok_iff {value : Value} {content : String} :
    text value = .ok content ↔ value = .text content := by
  cases value <;> simp [text]

theorem eq_of_nullable_eq_ok {read : Reader α} {value : Value} {item : α}
    (done : Reader.nullable read value = .ok (some item)) :
    read value = .ok item := by
  unfold Reader.nullable at done
  split at done
  · cases done
  · obtain ⟨found, reads, same⟩ := eq_ok_of_map_eq_ok done
    rw [reads, Option.some.inj same]

/-- Whether the value is null. -/
def Value.isNull : Value → Bool
  | .null => true
  | _ => false

namespace Form

/-- The value that a document has for a field of the form: under its name in a
table, in its place in a list. -/
def field? (form : Form α) (document : Value) (name : String) : Option Value :=
  match document with
  | .list items => (form.keys.zip items).lookup name
  | document =>
      (Reader.entries document).toOption.bind fun entries =>
        entries.lookup name

/-- The value that a document has for a field of the form, unless it is
null. -/
def given? (form : Form α) (document : Value) (name : String) : Option Value :=
  (form.field? document name).filter fun value => !value.isNull

theorem finish_of_ofEntries {form : Form α} {entries : List (String × Value)}
    {record : α} (done : form.ofEntries entries = .ok record) :
    form.finish (fun name => entries.lookup name) = .ok record := by
  unfold ofEntries at done
  split at done
  · cases done
  · obtain ⟨-, -, finished⟩ := eq_ok_of_bind_eq_ok done
    exact finished

theorem finish_of_ofItems {surplus : Surplus} {form : Form α}
    {items : List Value} {record : α}
    (done : form.ofItems surplus items = .ok record) :
    form.finish (fun name => (form.keys.zip items).lookup name) =
      .ok record := by
  obtain ⟨-, -, rest⟩ := eq_ok_of_bind_eq_ok done
  split at rest
  · next built finished =>
      split at rest
      · cases rest
      · obtain rfl := Except.ok.inj rest
        exact finished
  · cases rest
  · cases rest

/-- A record that is read from a document is built out of its fields. -/
theorem finish_of_readWith {surplus : Surplus} {form : Form α}
    {document : Value} {record : α}
    (done : form.readWith surplus document = .ok record) :
    form.finish (form.field? document) = .ok record := by
  unfold readWith at done
  split at done
  · exact finish_of_ofItems done
  · next noList =>
      obtain ⟨entries, isTable, rest⟩ := eq_ok_of_bind_eq_ok done
      have fields : form.field? document = fun name => entries.lookup name := by
        funext name
        cases document with
        | list items => exact absurd rfl (noList items)
        | _ => simp only [field?, isTable, Except.toOption, Option.bind_some]
      rw [fields]
      exact finish_of_ofEntries rest

section

variable {find : String → Option Value}

theorem finish_of_map {form : Form α} {function : α → β} {record : β}
    (finished : (function <$> form).finish find = .ok record) :
    ∃ item, form.finish find = .ok item ∧ function item = record :=
  eq_ok_of_map_eq_ok finished

theorem finish_of_seq {first : Form (α → β)} {second : Form α} {record : β}
    (finished : (first <*> second).finish find = .ok record) :
    ∃ function argument, first.finish find = .ok function ∧
      second.finish find = .ok argument ∧ function argument = record := by
  obtain ⟨function, isFunction, rest⟩ := eq_ok_of_bind_eq_ok finished
  obtain ⟨argument, isArgument, same⟩ := eq_ok_of_bind_eq_ok rest
  exact ⟨function, argument, isFunction, isArgument, Except.ok.inj same⟩

/-- A field that may be missing holds what is read of its value, unless that is
missing or null. -/
theorem rel_of_finish_optional {name : String} {read : Reader α}
    {item? : Option α}
    (finished : (optional name read).finish find = .ok item?) :
    Option.Rel (fun value item => read value = .ok item)
      ((find name).filter fun value => !value.isNull) item? := by
  simp only [optional, defaulted] at finished
  cases found : find name with
  | none =>
      rw [found] at finished
      obtain rfl := Except.ok.inj finished
      exact .none
  | some value =>
      rw [found] at finished
      cases value with
      | null =>
          obtain rfl := Except.ok.inj finished
          exact .none
      | _ =>
          obtain ⟨item, reads, rfl⟩ := eq_ok_of_map_eq_ok finished
          exact .some reads

end

/-- Whether the form can build the record out of some values. -/
def Builds (form : Form α) (record : α) : Prop :=
  ∃ find, form.finish find = .ok record

theorem builds_of_ofEntries {form : Form α} {entries : List (String × Value)}
    {record : α} (done : form.ofEntries entries = .ok record) :
    form.Builds record :=
  ⟨_, finish_of_ofEntries done⟩

theorem builds_of_readWith {surplus : Surplus} {form : Form α} {value : Value}
    {record : α} (done : form.readWith surplus value = .ok record) :
    form.Builds record :=
  ⟨_, finish_of_readWith done⟩

theorem Builds.of_map {form : Form α} {function : α → β} {record : β}
    (builds : (function <$> form).Builds record) :
    ∃ item, form.Builds item ∧ function item = record := by
  obtain ⟨find, finished⟩ := builds
  obtain ⟨item, built, same⟩ := finish_of_map finished
  exact ⟨item, ⟨find, built⟩, same⟩

theorem Builds.of_seq {first : Form (α → β)} {second : Form α} {record : β}
    (builds : (first <*> second).Builds record) :
    ∃ function argument, first.Builds function ∧ second.Builds argument ∧
      function argument = record := by
  obtain ⟨find, finished⟩ := builds
  obtain ⟨function, argument, isFunction, isArgument, same⟩ :=
    finish_of_seq finished
  exact ⟨function, argument, ⟨find, isFunction⟩, ⟨find, isArgument⟩, same⟩

theorem Builds.of_required {name : String} {read : Reader α} {item : α}
    (builds : (required name read).Builds item) :
    ∃ value, read value = .ok item := by
  obtain ⟨find, finished⟩ := builds
  simp only [required] at finished
  split at finished
  · exact ⟨_, finished⟩
  · cases finished

theorem Builds.of_defaulted {name : String} {fallback : α} {read : Reader α}
    {item : α} (builds : (defaulted name fallback read).Builds item) :
    item = fallback ∨ ∃ value, read value = .ok item := by
  obtain ⟨find, finished⟩ := builds
  simp only [defaulted] at finished
  split at finished
  · exact .inr ⟨_, finished⟩
  · exact .inl (Except.ok.inj finished).symm

theorem Builds.of_optional {name : String} {read : Reader α} {item : α}
    (builds : (optional name read).Builds (some item)) :
    ∃ value, read value = .ok item := by
  rcases builds.of_defaulted with missing | ⟨value, reads⟩
  · cases missing
  · exact ⟨value, eq_of_nullable_eq_ok reads⟩

end Form

end ScheduledJobs.Document
