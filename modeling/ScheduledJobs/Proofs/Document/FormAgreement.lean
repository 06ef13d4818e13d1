import Mathlib.Data.List.Forall2
import ScheduledJobs.Document.Form

/-!
# Tables that are read alike

A form reads the same record from two tables whose entries make no difference
to it.
-/

namespace ScheduledJobs.Document

variable {α β : Type} {related : String → Value → Value → Prop}

/-- Whether the entries of two tables have the same keys and related values. -/
def AreAlike (related : String → Value → Value → Prop) :
    List (String × Value) → List (String × Value) → Prop :=
  List.Forall₂ fun first second =>
    first.1 = second.1 ∧ related first.1 first.2 second.2

namespace AreAlike

variable {entries others : List (String × Value)}

theorem any_key_eq (alike : AreAlike related entries others) (key : String) :
    (entries.any fun entry => entry.1 == key) =
      others.any fun entry => entry.1 == key := by
  induction alike with
  | nil => rfl
  | cons agree _ ih => rw [List.any_cons, List.any_cons, agree.1, ih]

theorem repeatsKey_eq (alike : AreAlike related entries others)
    (form : Form α) : form.repeatsKey entries = form.repeatsKey others := by
  induction alike with
  | nil => rfl
  | cons agree rest ih =>
      rw [Form.repeatsKey, Form.repeatsKey, ih, agree.1,
        any_key_eq rest]

theorem rel_lookup (alike : AreAlike related entries others) (key : String) :
    Option.Rel (related key) (entries.lookup key) (others.lookup key) := by
  induction alike with
  | nil => exact .none
  | @cons first second _ _ agree _ ih =>
      obtain ⟨name, value⟩ := first
      obtain ⟨otherName, other⟩ := second
      obtain ⟨rfl, isRelated⟩ := agree
      rw [List.lookup_cons, List.lookup_cons]
      cases found : key == name with
      | true =>
          obtain rfl := eq_of_beq found
          exact .some isRelated
      | false => exact ih

end AreAlike

namespace Form

/-- Whether the form makes no difference between related values of fields. -/
structure Respects (form : Form α)
    (related : String → Value → Value → Prop) : Prop where
  visit : ∀ {key first second}, related key first second →
    form.visit key first = form.visit key second
  finish : ∀ {find other : String → Option Value},
    (∀ key, Option.Rel (related key) (find key) (other key)) →
      form.finish find = form.finish other

theorem Respects.ofEntries_eq {form : Form α} (respects : form.Respects related)
    {entries others : List (String × Value)}
    (alike : AreAlike related entries others) :
    form.ofEntries entries = form.ofEntries others := by
  have visits : (entries.forM fun entry => form.visit entry.1 entry.2) =
      others.forM fun entry => form.visit entry.1 entry.2 := by
    induction alike with
    | nil => rfl
    | cons agree _ ih =>
        rw [List.forM, List.forM, ih, ← agree.1, respects.visit agree.2]
  rw [ofEntries, ofEntries, alike.repeatsKey_eq, visits,
    respects.finish alike.rel_lookup]

theorem respects_map {form : Form α} (respects : form.Respects related)
    (function : α → β) : (function <$> form).Respects related where
  visit isRelated := respects.visit isRelated
  finish agree := congrArg (Except.map function) (respects.finish agree)

theorem respects_seq {first : Form (α → β)} {second : Form α}
    (respectsFirst : first.Respects related)
    (respectsSecond : second.Respects related) :
    (first <*> second).Respects related where
  visit isRelated := by
    change (first.visit _ _ >>= fun _ => second.visit _ _) =
      first.visit _ _ >>= fun _ => second.visit _ _
    rw [respectsFirst.visit isRelated, respectsSecond.visit isRelated]
  finish agree := by
    change (first.finish _ >>= fun _ => second.finish _ >>= _) =
      first.finish _ >>= fun _ => second.finish _ >>= _
    rw [respectsFirst.finish agree, respectsSecond.finish agree]

section

variable {name : String} {read : Reader α}
  (same : ∀ {first second}, related name first second →
    read first = read second)

include same

theorem visitField_eq {key : String} {first second : Value}
    (isRelated : related key first second) :
    visitField name read key first = visitField name read key second := by
  unfold visitField
  split
  · next isName =>
      subst isName
      rw [same isRelated]
  · rfl

theorem respects_defaulted (fallback : α) :
    (defaulted name fallback read).Respects related where
  visit isRelated := visitField_eq same isRelated
  finish {find other} agree := by
    have given := agree name
    simp only [defaulted]
    generalize find name = value?, other name = other? at given
    cases given with
    | none => rfl
    | some isRelated => exact same isRelated

theorem respects_required : (required name read).Respects related where
  visit isRelated := visitField_eq same isRelated
  finish {find other} agree := by
    have given := agree name
    simp only [required]
    generalize find name = value?, other name = other? at given
    cases given with
    | none => rfl
    | some isRelated => exact same isRelated

end

end Form

end ScheduledJobs.Document
