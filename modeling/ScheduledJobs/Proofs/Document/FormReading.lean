import ScheduledJobs.Document.Atoms
import ScheduledJobs.Document.Form
import ScheduledJobs.Proofs.Document.FormResults
import ScheduledJobs.Proofs.Document.Plain
import ScheduledJobs.Proofs.Instant.RoundTrip
import ScheduledJobs.Proofs.Results
import ScheduledJobs.Proofs.SortedMap

/-!
# Reading what has been written

A table that is written field by field is read back by any form that accepts
its fields.
-/

namespace ScheduledJobs.Document

variable {α β : Type}

namespace Reader

/-- Whether an item is read back from the value that is written for it, which
is not null. -/
structure Recovers (read : Reader α) (write : α → Value) (item : α) :
    Prop where
  reads : read (write item) = .ok item
  given : write item ≠ .null

theorem recovers_text (content : String) : text.Recovers .text content :=
  ⟨rfl, nofun⟩

theorem recovers_integer (number : Int32) :
    integer.Recovers .ofInteger number := by
  have least := Int32.minValue_le_toInt number
  have greatest := Int32.toInt_le number
  refine ⟨?_, nofun⟩
  rw [Value.ofInteger, integer, if_pos ⟨least, greatest⟩, Int32.ofInt_toInt]

theorem recovers_instant (given : Instant) :
    instant.Recovers .ofInstant given := by
  refine ⟨?_, nofun⟩
  have written : text (.ofInstant given) = .ok given.text := rfl
  simp only [instant, written, ok_bind, Instant.ofText?_text]

theorem mapM_map_of_recovers {read : Reader α} {write : α → Value}
    {items : List α} (recovers : ∀ item ∈ items, read.Recovers write item) :
    (items.map write).mapM read = .ok items := by
  induction items with
  | nil => rfl
  | cons item items ih =>
      have first := (recovers item (by simp)).reads
      have others := ih fun other member =>
        recovers other (List.mem_cons_of_mem _ member)
      simp only [List.map_cons, List.mapM_cons, first, others]
      rfl

theorem recovers_list {read : Reader α} {write : α → Value} {items : List α}
    (recovers : ∀ item ∈ items, read.Recovers write item) :
    (list read).Recovers (fun items => .list (items.map write)) items :=
  ⟨mapM_map_of_recovers recovers, nofun⟩

theorem recovers_textTable (map : SortedMap String) :
    textTable.Recovers .ofTextTable map := by
  refine ⟨?_, nofun⟩
  have read (entries : List (String × String)) :
      (entries.map fun entry => (entry.1, Value.text entry.2)).mapM
          (fun entry => do
            return (entry.1, ← text entry.2)) =
        (.ok entries : Except ReadError _) := by
    induction entries with
    | nil => rfl
    | cons entry entries ih =>
        rw [List.map_cons, List.mapM_cons, ih]
        rfl
  have written : entries (.ofTextTable map) =
      .ok (map.entries.map fun entry => (entry.1, .text entry.2)) := rfl
  simp only [textTable, written, ok_bind, read, SortedMap.ofList_entries]
  rfl

end Reader

namespace Value

/-- The value of a field that is written. -/
def fieldValue? (fields : List (String × Option Value)) (key : String) :
    Option Value :=
  (fields.lookup key).join

@[simp] theorem fieldValue?_cons (name key : String) (value? : Option Value)
    (fields : List (String × Option Value)) :
    fieldValue? ((name, value?) :: fields) key =
      if key = name then value? else fieldValue? fields key := by
  rw [fieldValue?, SortedMap.lookup_entry]
  split <;> rfl

@[simp] theorem fieldValue?_nil (key : String) :
    fieldValue? [] key = none := rfl

/-- The entries that are written for fields. -/
def fieldEntries (fields : List (String × Option Value)) :
    List (String × Value) :=
  fields.filterMap fun field => field.2.map fun value => (field.1, value)

theorem mem_keys_of_mem_fieldEntries {fields : List (String × Option Value)}
    {entry : String × Value} (member : entry ∈ fieldEntries fields) :
    entry.1 ∈ fields.map Prod.fst := by
  obtain ⟨field, isField, written⟩ := List.mem_filterMap.mp member
  obtain ⟨value, -, rfl⟩ := Option.map_eq_some_iff.mp written
  exact List.mem_map.mpr ⟨field, isField, rfl⟩

theorem lookup_eq_none_of_not_mem {γ : Type} {entries : List (String × γ)}
    {key : String} (absent : key ∉ entries.map Prod.fst) :
    entries.lookup key = none := by
  induction entries with
  | nil => rfl
  | cons entry entries ih =>
      simp only [List.map_cons, List.mem_cons, not_or] at absent
      rw [SortedMap.lookup_entry, if_neg absent.1, ih absent.2]

/-- A written field is found under its key, as long as no two fields have the
same one. -/
theorem lookup_fieldEntries {fields : List (String × Option Value)}
    (distinct : (fields.map Prod.fst).Nodup) (key : String) :
    (fieldEntries fields).lookup key = fieldValue? fields key := by
  induction fields with
  | nil => rfl
  | cons field fields ih =>
      obtain ⟨name, value?⟩ := field
      simp only [List.map_cons, List.nodup_cons] at distinct
      have others := ih distinct.2
      rw [fieldValue?_cons]
      cases value? with
      | none =>
          change (fieldEntries fields).lookup key = _
          split
          · next isName =>
              subst isName
              exact lookup_eq_none_of_not_mem fun member => by
                obtain ⟨entry, isEntry, rfl⟩ := List.mem_map.mp member
                exact distinct.1 (mem_keys_of_mem_fieldEntries isEntry)
          · exact others
      | some value =>
          change ((name, value) :: fieldEntries fields).lookup key = _
          rw [SortedMap.lookup_entry]
          split
          · rfl
          · exact others

theorem keys_fieldEntries_sublist (fields : List (String × Option Value)) :
    ((fieldEntries fields).map Prod.fst).Sublist (fields.map Prod.fst) := by
  induction fields with
  | nil => exact .slnil
  | cons field fields ih =>
      obtain ⟨name, value?⟩ := field
      cases value? with
      | none => exact ih.cons name
      | some value => exact ih.cons_cons name

theorem lookup_of_mem {γ : Type} {entries : List (String × γ)}
    (distinct : (entries.map Prod.fst).Nodup) {entry : String × γ}
    (member : entry ∈ entries) : entries.lookup entry.1 = some entry.2 := by
  induction entries with
  | nil => simp at member
  | cons first others ih =>
      simp only [List.map_cons, List.nodup_cons] at distinct
      rw [SortedMap.lookup_entry]
      rcases List.mem_cons.mp member with rfl | later
      · rw [if_pos rfl]
      · have different : entry.1 ≠ first.1 := by
          intro equal
          rw [← equal] at distinct
          exact distinct.1 (List.mem_map_of_mem later)
        rw [if_neg different, ih distinct.2 later]

end Value

namespace Form

theorem repeatsKey_eq_false {form : Form α} {entries : List (String × Value)}
    (distinct : (entries.map Prod.fst).Nodup) :
    form.repeatsKey entries = false := by
  induction entries with
  | nil => rfl
  | cons entry entries ih =>
      obtain ⟨key, value⟩ := entry
      simp only [List.map_cons, List.nodup_cons] at distinct
      have absent : (entries.any fun other => other.1 == key) = false := by
        rw [List.any_eq_false]
        intro other member equal
        rw [← eq_of_beq equal] at distinct
        exact distinct.1 (List.mem_map_of_mem member)
      rw [repeatsKey, absent, Bool.and_false, Bool.false_or, ih distinct.2]

/-- Whether the form inspects every value that can be found and builds the
record of them. -/
structure Accepts (form : Form α) (find : String → Option Value)
    (record : α) : Prop where
  visits : ∀ key value, find key = some value → form.visit key value = .ok ()
  finishes : form.finish find = .ok record

variable {find : String → Option Value}

theorem Accepts.map {form : Form α} {record : α}
    (accepts : form.Accepts find record) (function : α → β) :
    (function <$> form).Accepts find (function record) where
  visits := accepts.visits
  finishes := by
    change (form.finish find).map function = _
    rw [accepts.finishes]
    rfl

theorem Accepts.seq {first : Form (α → β)} {second : Form α}
    {function : α → β} {argument : α}
    (firstAccepts : first.Accepts find function)
    (secondAccepts : second.Accepts find argument) :
    (first <*> second).Accepts find (function argument) where
  visits := by
    intro key value found
    change (do first.visit key value; second.visit key value) = _
    rw [firstAccepts.visits key value found]
    exact secondAccepts.visits key value found
  finishes := by
    change (do
      let function ← first.finish find
      let argument ← second.finish find
      return function argument) = _
    rw [firstAccepts.finishes, ok_bind, secondAccepts.finishes]
    rfl

theorem visitField_eq_ok {name : String} {read : Reader α} {record : α}
    (readable : ∀ value, find name = some value → read value = .ok record)
    {key : String} {value : Value} (found : find key = some value) :
    visitField name read key value = .ok () := by
  unfold visitField
  split
  · next isName =>
      rw [readable value (isName ▸ found)]
      rfl
  · rfl

theorem Accepts.required {name : String} {read : Reader α} {value : Value}
    {item : α} (found : find name = some value)
    (reads : read value = .ok item) :
    (required name read).Accepts find item where
  visits := fun _ _ => visitField_eq_ok fun other isOther => by
    obtain rfl := Option.some.inj (found.symm.trans isOther)
    exact reads
  finishes := by
    simp only [Form.required, found, reads]

theorem Accepts.requiredText {name content : String}
    (found : find name = some (.text content)) :
    (Form.required name Reader.text).Accepts find content :=
  .required found (Reader.recovers_text content).reads

theorem Accepts.defaulted_given {name : String} {fallback : α}
    {read : Reader α} {value : Value} {item : α}
    (found : find name = some value) (reads : read value = .ok item) :
    (defaulted name fallback read).Accepts find item where
  visits := fun _ _ => visitField_eq_ok fun other isOther => by
    obtain rfl := Option.some.inj (found.symm.trans isOther)
    exact reads
  finishes := by
    simp only [Form.defaulted, found, reads]

theorem Accepts.defaulted_missing {name : String} (fallback : α)
    (read : Reader α) (missing : find name = none) :
    (defaulted name fallback read).Accepts find fallback where
  visits := by
    have readable : ∀ value, find name = some value →
        read value = .ok fallback := by
      intro value found
      simp [missing] at found
    exact fun _ _ => visitField_eq_ok readable
  finishes := by
    simp only [Form.defaulted, missing]

theorem nullable_of_reads {read : Reader α} {value : Value} {item : α}
    (reads : read value = .ok item) (given : value ≠ .null) :
    Reader.nullable read value = .ok (some item) := by
  unfold Reader.nullable
  split
  · exact absurd rfl given
  · rw [reads]
    rfl

/-- A field that may be missing is accepted when its value, if there is one,
is read, be it as something else than what was written. -/
theorem Accepts.optionalAs {name : String} {read : Reader β}
    {write : α → Value} {turn : α → β} {item? : Option α}
    (found : find name = item?.map write)
    (reads : ∀ item ∈ item?,
      read (write item) = .ok (turn item) ∧ write item ≠ .null) :
    (optional name read).Accepts find (item?.map turn) := by
  cases item? with
  | none => exact .defaulted_missing none (Reader.nullable read) found
  | some item =>
      obtain ⟨readsItem, given⟩ := reads item rfl
      exact .defaulted_given found (nullable_of_reads readsItem given)

theorem Accepts.optional {name : String} {read : Reader α} {write : α → Value}
    {item? : Option α} (found : find name = item?.map write)
    (recovers : ∀ item ∈ item?, read.Recovers write item) :
    (optional name read).Accepts find item? := by
  have accepts : (Form.optional name read).Accepts find (item?.map id) :=
    .optionalAs found fun item isItem =>
      ⟨(recovers item isItem).reads, (recovers item isItem).given⟩
  rwa [Option.map_id, id] at accepts

theorem Accepts.optionalText {name : String} {item? : Option String}
    (found : find name = item?.map .text) :
    (Form.optional name Reader.text).Accepts find item? :=
  .optional found fun item _ => Reader.recovers_text item

theorem Accepts.optionalInteger {name : String} {item? : Option Int32}
    (found : find name = item?.map .ofInteger) :
    (Form.optional name Reader.integer).Accepts find item? :=
  .optional found fun item _ => Reader.recovers_integer item

theorem Accepts.optionalInstant {name : String} {item? : Option Instant}
    (found : find name = item?.map .ofInstant) :
    (Form.optional name Reader.instant).Accepts find item? :=
  .optional found fun item _ => Reader.recovers_instant item

theorem forM_eq_ok {γ ε : Type} {items : List γ} {check : γ → Except ε Unit}
    (passes : ∀ item ∈ items, check item = .ok ()) :
    items.forM check = .ok () := by
  induction items with
  | nil => rfl
  | cons item items ih =>
      have first := passes item (by simp)
      have others := ih fun other member =>
        passes other (List.mem_cons_of_mem _ member)
      change (check item >>= fun _ => items.forM check) = _
      rw [first, ok_bind, others]

theorem ofEntries_fieldEntries {form : Form α} {record : α}
    {fields : List (String × Option Value)}
    (distinct : (fields.map Prod.fst).Nodup)
    (accepts : form.Accepts (Value.fieldValue? fields) record) :
    form.ofEntries (Value.fieldEntries fields) = .ok record := by
  have find : (fun key => (Value.fieldEntries fields).lookup key) =
      Value.fieldValue? fields :=
    funext (Value.lookup_fieldEntries distinct)
  have keys : ((Value.fieldEntries fields).map Prod.fst).Nodup :=
    distinct.sublist (Value.keys_fieldEntries_sublist fields)
  have visited : ((Value.fieldEntries fields).forM fun entry =>
      form.visit entry.1 entry.2) = .ok () := by
    apply forM_eq_ok
    intro entry member
    apply accepts.visits
    rw [← Value.lookup_fieldEntries distinct]
    exact Value.lookup_of_mem keys member
  rw [ofEntries, repeatsKey_eq_false keys, find]
  simp [visited, accepts.finishes, ok_bind]

theorem readWith_ofFields {form : Form α} {record : α}
    {fields : List (String × Option Value)}
    (distinct : (fields.map Prod.fst).Nodup)
    (accepts : form.Accepts (Value.fieldValue? fields) record)
    (surplus : Surplus) :
    form.readWith surplus (.ofFields fields) = .ok record :=
  ofEntries_fieldEntries distinct accepts

theorem field?_ofFields (form : Form α)
    {fields : List (String × Option Value)}
    (distinct : (fields.map Prod.fst).Nodup) :
    form.field? (.ofFields fields) = Value.fieldValue? fields :=
  funext (Value.lookup_fieldEntries distinct)

theorem given?_ofFields (form : Form α)
    {fields : List (String × Option Value)}
    (distinct : (fields.map Prod.fst).Nodup) {name : String} {item? : Option β}
    {write : β → Value}
    (found : Value.fieldValue? fields name = item?.map write)
    (given : ∀ item, (write item).isNull = false) :
    form.given? (.ofFields fields) name = item?.map write := by
  rw [given?, field?_ofFields form distinct, found]
  cases item? <;> simp [Option.filter, given]

/-- A record that is read from a table of fields is built out of them. -/
theorem finish_of_readWith_ofFields {form : Form α} {record : α}
    {fields : List (String × Option Value)}
    (distinct : (fields.map Prod.fst).Nodup) (surplus : Surplus)
    (reads : form.readWith surplus (.ofFields fields) = .ok record) :
    form.finish (Value.fieldValue? fields) = .ok record := by
  have finished := finish_of_readWith reads
  rwa [field?_ofFields form distinct] at finished

end Form

end ScheduledJobs.Document
