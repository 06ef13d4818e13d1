import Mathlib.Data.List.Perm.Basic
import ScheduledJobs.Job.Reading
import ScheduledJobs.Proofs.Document.FormAgreement
import ScheduledJobs.Proofs.IdentitySet.Order
import ScheduledJobs.Proofs.Results

/-!
# The order in which collections are written

The job that is read from a document does not depend on the order of the items
of its lists, unless two of them have one identity.
-/

namespace ScheduledJobs

open Document IdentitySet

theorem mapM_eq_ok_iff {α β ε : Type} {read : α → Except ε β}
    {values : List α} {items : List β} :
    values.mapM read = .ok items ↔
      List.Forall₂ (fun value item => read value = .ok item) values items := by
  constructor
  · intro areRead
    induction values generalizing items with
    | nil =>
        obtain rfl : [] = items := Except.ok.inj areRead
        exact .nil
    | cons value values ih =>
        rw [List.mapM_cons] at areRead
        obtain ⟨item, isRead, rest⟩ := eq_ok_of_bind_eq_ok areRead
        obtain ⟨others, othersRead, same⟩ := eq_ok_of_bind_eq_ok rest
        obtain rfl : item :: others = items := Except.ok.inj same
        exact .cons isRead (ih othersRead)
  · intro areRead
    induction areRead with
    | nil => rfl
    | cons isRead _ ih =>
        rw [List.mapM_cons, isRead, ih]
        rfl

/-- Whether the values are lists of the same items in any order, no two of which
have one identity. -/
def Reordered {α : Type} [Identified α] (read : Reader α)
    (first second : Value) : Prop :=
  ∃ values others items, first = .list values ∧ second = .list others ∧
    values.Perm others ∧ values.mapM read = .ok items ∧ AreDistinct items

namespace Reordered

variable {α : Type} [Identified α] {read : Reader α} {first second : Value}

theorem presence_read_eq (reordered : Reordered read first second) :
    Presence.read read first = Presence.read read second := by
  obtain ⟨values, others, items, rfl, rfl, perm, isRead, distinct⟩ := reordered
  obtain ⟨moved, areRead, itemsPerm⟩ :=
    List.perm_comp_forall₂ perm.symm (mapM_eq_ok_iff.mp isRead)
  have otherRead := mapM_eq_ok_iff.mpr areRead
  have same := ofList_eq_of_perm distinct itemsPerm.symm
  simp only [Presence.read, Reader.nullable, Reader.list, isRead, otherRead,
    Except.map, ok_bind, Option.map_some, same]

theorem isReadable_eq (reordered : Reordered read first second) :
    first.isReadable = second.isReadable := by
  have areReadable (values : List Value) :
      Value.areReadable values = values.all Value.isReadable := by
    induction values with
    | nil => rw [Value.areReadable]; rfl
    | cons value values ih => rw [Value.areReadable, List.all_cons, ih]
  obtain ⟨values, others, items, rfl, rfl, perm, -, -⟩ := reordered
  rw [Value.isReadable, Value.isReadable, areReadable, areReadable,
    perm.all_eq]

end Reordered

/-- Whether entries of two recurrences with one key have the same value, or give
the items of one collection in different orders. -/
inductive Recurrence.SameEntry (key : String) : Value → Value → Prop where
  | unchanged (value : Value) : SameEntry key value value
  | numbers {first second : Value}
      (isKey : key ∈ ["minutes", "hours", "month_days"])
      (reordered : Reordered Reader.integer first second) :
      SameEntry key first second
  | weekDays {first second : Value} (isKey : key = "week_days")
      (reordered : Reordered DayName.read first second) :
      SameEntry key first second
  | monthlyOccurrences {first second : Value}
      (isKey : key = "monthly_occurrences")
      (reordered : Reordered MonthlyOccurrence.form.read first second) :
      SameEntry key first second

/-- Whether two documents for a recurrence are the same, but for the orders in
which the items of collections are given. -/
inductive Recurrence.Reordered : Value → Value → Prop where
  | table {entries others : List (String × Value)}
      (alike : AreAlike SameEntry entries others) :
      Reordered (.table entries) (.table others)

namespace Recurrence

theorem SameEntry.isReadable_eq {key : String} {first second : Value}
    (same : SameEntry key first second) :
    first.isReadable = second.isReadable := by
  cases same with
  | unchanged => rfl
  | numbers isKey reordered => exact reordered.isReadable_eq
  | weekDays isKey reordered => exact reordered.isReadable_eq
  | monthlyOccurrences isKey reordered => exact reordered.isReadable_eq

theorem haveReadableValues_eq {entries others : List (String × Value)}
    (alike : AreAlike SameEntry entries others) :
    Value.haveReadableValues entries = Value.haveReadableValues others := by
  induction alike with
  | nil => rfl
  | cons agree _ ih =>
      rw [Value.haveReadableValues, Value.haveReadableValues, ih,
        agree.2.isReadable_eq]

theorem SameEntry.eq_of_not_mem {key : String} {first second : Value}
    (same : SameEntry key first second)
    (noCollection : key ∉ ["minutes", "hours", "week_days", "month_days",
      "monthly_occurrences"]) : first = second := by
  cases same with
  | unchanged => rfl
  | numbers isKey => simp_all
  | weekDays isKey => simp_all
  | monthlyOccurrences isKey => simp_all

theorem SameEntry.numbers_eq {key : String} {first second : Value}
    (same : SameEntry key first second)
    (isKey : key ∈ ["minutes", "hours", "month_days"]) :
    Presence.read Reader.integer first =
      Presence.read Reader.integer second := by
  cases same with
  | unchanged => rfl
  | numbers _ reordered => exact reordered.presence_read_eq
  | weekDays otherKey => simp_all
  | monthlyOccurrences otherKey => simp_all

theorem SameEntry.weekDays_eq {first second : Value}
    (same : SameEntry "week_days" first second) :
    Presence.read DayName.read first = Presence.read DayName.read second := by
  cases same with
  | unchanged => rfl
  | numbers otherKey => simp at otherKey
  | weekDays _ reordered => exact reordered.presence_read_eq
  | monthlyOccurrences otherKey => simp at otherKey

theorem SameEntry.monthlyOccurrences_eq {first second : Value}
    (same : SameEntry "monthly_occurrences" first second) :
    Presence.read MonthlyOccurrence.form.read first =
      Presence.read MonthlyOccurrence.form.read second := by
  cases same with
  | unchanged => rfl
  | numbers otherKey => simp at otherKey
  | weekDays otherKey => simp at otherKey
  | monthlyOccurrences _ reordered => exact reordered.presence_read_eq

theorem respects_form : form.Respects SameEntry := by
  refine Form.respects_seq (Form.respects_seq (Form.respects_seq
    (Form.respects_map (Form.respects_required ?_) _)
    (Form.respects_defaulted ?_ _)) (Form.respects_defaulted ?_ _))
    (Form.respects_defaulted ?_ _)
  all_goals
    intro first second same
    rw [same.eq_of_not_mem (by decide)]

theorem respects_scheduleForm : Schedule.form.Respects SameEntry := by
  have numbers {name : String}
      (isKey : name ∈ ["minutes", "hours", "month_days"]) :
      (Presence.field name Reader.integer).Respects SameEntry :=
    Form.respects_defaulted (fun same => same.numbers_eq isKey) _
  have weekDays : (Presence.field "week_days" DayName.read).Respects
      SameEntry :=
    Form.respects_defaulted SameEntry.weekDays_eq _
  have monthlyOccurrences : (Presence.field "monthly_occurrences"
      MonthlyOccurrence.form.read).Respects SameEntry :=
    Form.respects_defaulted SameEntry.monthlyOccurrences_eq _
  exact Form.respects_seq (Form.respects_seq (Form.respects_seq
    (Form.respects_seq (Form.respects_map (numbers (by decide)) _)
      (numbers (by decide))) weekDays) (numbers (by decide)))
    monthlyOccurrences

theorem read_eq_of_reordered {first second : Value}
    (reordered : Recurrence.Reordered first second) :
    read first = read second := by
  cases reordered with
  | @table entries others alike =>
      have readable := haveReadableValues_eq alike
      simp only [read, Reader.entries, ok_bind, readable,
        respects_form.ofEntries_eq alike,
        respects_scheduleForm.ofEntries_eq alike]

end Recurrence

namespace Job

/-- Whether entries of two jobs with one key have the same value, or give
collections of their recurrences in different orders. -/
inductive SameEntry (key : String) : Value → Value → Prop where
  | unchanged (value : Value) : SameEntry key value value
  | recurrence {first second : Value} (isKey : key = "recurrence")
      (reordered : Recurrence.Reordered first second) :
      SameEntry key first second

/-- Whether two documents for a job are the same, but for the orders in which
the items of collections are given. -/
inductive Reordered : Value → Value → Prop where
  | table {entries others : List (String × Value)}
      (alike : AreAlike SameEntry entries others) :
      Reordered (.table entries) (.table others)

theorem SameEntry.eq_of_ne {key : String} {first second : Value}
    (same : SameEntry key first second) (notRecurrence : key ≠ "recurrence") :
    first = second := by
  cases same with
  | unchanged => rfl
  | recurrence isKey => exact absurd isKey notRecurrence

theorem SameEntry.recurrence_eq {key : String} {first second : Value}
    (same : SameEntry key first second) :
    Reader.nullable Recurrence.read first =
      Reader.nullable Recurrence.read second := by
  cases same with
  | unchanged => rfl
  | recurrence _ reordered =>
      have sameRecurrence := Recurrence.read_eq_of_reordered reordered
      cases reordered with
      | table => simp only [Reader.nullable, sameRecurrence]

theorem respects_form (surplus : Surplus) :
    (form surplus).Respects SameEntry := by
  refine Form.respects_seq (Form.respects_seq (Form.respects_seq
    (Form.respects_seq (Form.respects_seq (Form.respects_seq
    (Form.respects_seq (Form.respects_seq (Form.respects_map
      (Form.respects_required ?_) _)
      (Form.respects_required ?_)) (Form.respects_required ?_))
      (Form.respects_defaulted ?_ _)) (Form.respects_defaulted ?_ _))
      (Form.respects_defaulted ?_ _))
      (Form.respects_defaulted SameEntry.recurrence_eq _))
      (Form.respects_defaulted ?_ _)) (Form.respects_defaulted ?_ _)
  all_goals
    intro first second same
    rw [same.eq_of_ne (by decide)]

theorem read_eq_of_reordered {first second : Value}
    (reordered : Reordered first second) (surplus : Surplus) :
    (form surplus).read first = (form surplus).read second := by
  cases reordered with
  | @table entries others alike =>
      exact (respects_form surplus).ofEntries_eq alike

end Job

namespace IdentitySet

/-- A set of items holds the first item of each identity, in the order of the
identities, and an item is new to a set when no member has its identity.  Sets
are equal when they hold the same identities.  The order in which items with
different identities are given counts for nothing, so whatever is checked, sent
or written of a job that is read from a document does not depend on it.  Numbers
with one identity are equal, and the negative ones come last. -/
theorem members_are_first_items :
    (∀ {α : Type} [Identified α] (items : List α),
      items.foldl (fun set item => (insertNew set item).2) ∅ = ofList items ∧
      (ofList items).members.Pairwise (fun earlier later =>
        identity earlier < identity later) ∧
      (∀ key,
        (ofList items).members.find? (fun member => identity member == key) =
          items.find? fun item => identity item == key) ∧
      ∀ others, AreDistinct items → items.Perm others →
        (ofList items).members = (ofList others).members) ∧
    (∀ {α : Type} [Identified α] (set : IdentitySet α),
      ofList set.members = set ∧
      (∀ item,
        ((set.insertNew item).1 = true ↔
          ∀ member ∈ set.members, identity member ≠ identity item) ∧
        ((set.insertNew item).1 = false → (set.insertNew item).2 = set)) ∧
      ∀ other, (set == other) = true ↔
        ∀ key, key ∈ set.identities ↔ key ∈ other.identities) ∧
    (∀ first second, Job.Reordered first second →
      Job.readDeclared first = Job.readDeclared second ∧
        Job.read first = Job.read second) ∧
    ∀ first second : Int32,
      (identity first = identity second → first = second) ∧
      (identity first < identity second ↔
        (0 ≤ first.toInt ∧ second.toInt < 0) ∨
          ((0 ≤ first.toInt ↔ 0 ≤ second.toInt) ∧
            first.toInt < second.toInt)) := by
  refine ⟨?_, ?_, ?_, ?_⟩
  · intro α _ items
    refine ⟨rfl, (ofList items).ascending, find?_members_ofList items, ?_⟩
    intro others distinct perm
    rw [ofList_eq_of_perm distinct perm]
  · intro α _ set
    refine ⟨ofList_members set, fun item => ?_,
      fun other => beq_iff_mem_identities⟩
    exact ⟨insertNew_fst_eq_true_iff, insertNew_snd_of_not_new⟩
  · intro first second reordered
    exact ⟨Job.read_eq_of_reordered reordered .ignored,
      Job.read_eq_of_reordered reordered .refused⟩
  · intro first second
    exact ⟨identity_int32_injective, identity_int32_lt_iff⟩

/-- A document for a job that runs on the given days. -/
def weekDocument (days : List Value) : Value :=
  .table [
    ("name", .text "report"),
    ("resource_group_name", .text "group"),
    ("job_collection_name", .text "daily"),
    ("recurrence", .table [
      ("frequency", .text "Week"),
      ("count", .integer 5),
      ("week_days", .list days)])]

theorem reordered_weekDocument {days others : List Value} {names : List DayName}
    (perm : days.Perm others) (areRead : days.mapM DayName.read = .ok names)
    (distinct : AreDistinct names) :
    Job.Reordered (weekDocument days) (weekDocument others) := by
  refine .table (.cons ⟨rfl, .unchanged _⟩ (.cons ⟨rfl, .unchanged _⟩
    (.cons ⟨rfl, .unchanged _⟩ (.cons ⟨rfl, .recurrence rfl ?_⟩ .nil))))
  refine .table (.cons ⟨rfl, .unchanged _⟩ (.cons ⟨rfl, .unchanged _⟩
    (.cons ⟨rfl, .weekDays rfl ?_⟩ .nil)))
  exact ⟨days, others, names, rfl, rfl, perm, areRead, distinct⟩

/-- Days are given in two orders for the same job, and a day in capital letters
is not taken in again. -/
theorem members_are_first_items_of_days :
    let days : List DayName := [⟨"Monday"⟩, ⟨"Friday"⟩]
    let others : List DayName := [⟨"Friday"⟩, ⟨"Monday"⟩]
    let again := (ofList days).insertNew ⟨"MONDAY"⟩
    (ofList days).members = (ofList others).members ∧
      again.1 = false ∧ again.2 = ofList days ∧
      (∃ job,
        Job.readDeclared (weekDocument [.text "Monday", .text "Friday"]) =
            .ok job ∧
          Job.readDeclared (weekDocument [.text "Friday", .text "Monday"]) =
            .ok job) ∧
      identity (3 : Int32) < identity (-31 : Int32) := by
  intro days others again
  obtain ⟨lists, sets, documents, numbers⟩ := members_are_first_items
  have distinct : AreDistinct days := by decide +kernel
  have known : again.1 = false := by decide +kernel
  refine ⟨(lists days).2.2.2 others distinct (.swap _ _ _), known,
    ((sets (ofList days)).2.1 _).2 known, ?_, ?_⟩
  · have reordered : Job.Reordered
        (weekDocument [.text "Monday", .text "Friday"])
        (weekDocument [.text "Friday", .text "Monday"]) :=
      reordered_weekDocument (.swap _ _ _) rfl distinct
    have same := (documents _ _ reordered).1
    exact ⟨_, same, rfl⟩
  · exact (numbers 3 (-31)).2.mpr (.inl (by decide))

end IdentitySet

end ScheduledJobs
