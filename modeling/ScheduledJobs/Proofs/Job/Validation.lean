import ScheduledJobs.Proofs.Job.Rules
import ScheduledJobs.Proofs.Text.LowerCase

/-! # Jobs that break no rule -/

namespace ScheduledJobs

open Text

theorem ne_empty_of_not_isBlankText {text : String}
    (visible : isBlankText text = false) : text ≠ "" := by
  rintro rfl
  simp [isBlankText] at visible

theorem ne_empty_of_isValidName {name : String}
    (valid : isValidName name = true) : name ≠ "" := by
  rintro rfl
  simp [isValidName] at valid

theorem isAscii_of_mem_dayNames {name : String} (member : name ∈ dayNames) :
    IsAscii name.toList := by
  simp only [dayNames, List.mem_cons, List.not_mem_nil, or_false] at member
  rcases member with rfl | rfl | rfl | rfl | rfl | rfl | rfl <;>
    simp [IsAscii]

theorem DayName.toList_lower_of_isValid {day : DayName}
    (valid : day.isValid = true) :
    (LowerCase.lower day.name).toList = foldCase day.name.toList := by
  obtain ⟨candidate, isName, agrees⟩ := List.any_eq_true.mp valid
  exact LowerCase.toList_lower_of_ascii
    (isAscii_of_caselessEq (isAscii_of_mem_dayNames isName) agrees)

namespace Job

/-- What checking makes sure of. -/
structure IsAccepted (job : Job) : Prop where
  action : job.action.isSome = true
  name : isValidName job.name = true
  resourceGroup : isBlankText job.resourceGroup = false
  collection : isBlankText job.collection = false
  recurrence : ∀ recurrence ∈ job.recurrence, recurrence.violations = []

theorem isAccepted_of_isValid {job : Job} (valid : job.isValid = true) :
    job.IsAccepted := by
  have rules := isValid_iff.mp valid
  exact ⟨rules.hasAction, rules.name, rules.resourceGroup, rules.collection,
    fun recurrence given =>
      Recurrence.violations_eq_nil.mpr (rules.recurrence recurrence given)⟩

end Job

end ScheduledJobs
