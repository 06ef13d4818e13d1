import ScheduledJobs.Job.Writing
import ScheduledJobs.Proofs.Document.Plain

/-! # Jobs are written as plain values -/

namespace ScheduledJobs

open Document Value

theorem Credentials.fitsIn_toField (credentials : Credentials) :
    credentials.toField.2.FitsIn 1 := by
  cases credentials <;> apply fitsIn_ofFields <;>
    simp [fitsIn_text, fitsIn_ofInstant]

theorem WebAction.fitsIn_toValue (action : WebAction) :
    action.toValue.FitsIn 2 := by
  apply fitsIn_ofFields
  rw [List.forall_mem_append]
  constructor
  · have headers : ∀ value ∈ (if action.headers.entries.isEmpty then none
        else some (ofTextTable action.headers)), value.FitsIn 1 := by
      intro value isValue
      split at isValue
      · cases isValue
      · obtain rfl := Option.some.inj isValue
        exact fitsIn_ofTextTable 0 action.headers
    simpa [fitsIn_text] using headers
  · simp [Credentials.fitsIn_toField]

theorem FixedRetry.fitsIn_toValue (retry : FixedRetry) :
    retry.toValue.FitsIn 1 := by
  apply fitsIn_ofFields
  simp [fitsIn_text, fitsIn_ofInteger]

theorem MonthlyOccurrence.fitsIn_toValue (numbered : MonthlyOccurrence) :
    numbered.toValue.FitsIn 1 := by
  apply fitsIn_ofFields
  simp [fitsIn_text, fitsIn_ofInteger, DayName.toValue]

theorem Presence.fitsIn_toField {α : Type} [Identified α] {levels : Nat}
    {write : α → Value} (fits : ∀ item, (write item).FitsIn levels)
    (presence : Presence (IdentitySet α)) :
    ∀ value ∈ presence.toField write, value.FitsIn (levels + 1) := by
  intro value isValue
  cases presence with
  | unset => cases isValue
  | empty =>
      obtain rfl := Option.some.inj isValue
      exact fitsIn_list nofun
  | value set =>
      obtain rfl := Option.some.inj isValue
      exact fitsIn_map_list fits set.members

theorem Schedule.fitsIn_fields (schedule : Schedule) :
    ∀ field ∈ schedule.fields, ∀ value ∈ field.2, value.FitsIn 2 := by
  intro field member
  simp only [fields, List.mem_cons, List.not_mem_nil, or_false] at member
  rcases member with rfl | rfl | rfl | rfl | rfl
  · exact Presence.fitsIn_toField (fitsIn_ofInteger 1) _
  · exact Presence.fitsIn_toField (fitsIn_ofInteger 1) _
  · exact Presence.fitsIn_toField
      (fun day : DayName => fitsIn_text 1 day.name) _
  · exact Presence.fitsIn_toField (fitsIn_ofInteger 1) _
  · exact Presence.fitsIn_toField MonthlyOccurrence.fitsIn_toValue _

theorem Recurrence.fitsIn_toValue (recurrence : Recurrence) :
    recurrence.toValue.FitsIn 3 := by
  apply fitsIn_ofFields
  rw [List.forall_mem_append]
  constructor
  · simp [fitsIn_text, fitsIn_ofInteger, fitsIn_ofInstant]
  · exact recurrence.schedule.fitsIn_fields

theorem Job.fitsIn_toValue (job : Job) : job.toValue.FitsIn 4 := by
  have action (given : WebAction) : given.toValue.FitsIn 3 :=
    given.fitsIn_toValue.mono (by decide)
  have retry : ∀ value ∈ job.retry.toValue?, value.FitsIn 3 := by
    intro value isValue
    cases given : job.retry with
    | never =>
        rw [given] at isValue
        cases isValue
    | fixed retry =>
        rw [given] at isValue
        obtain rfl := Option.some.inj isValue
        exact retry.fitsIn_toValue.mono (by decide)
  apply fitsIn_ofFields
  simpa [fitsIn_text, fitsIn_ofInstant, action,
    Recurrence.fitsIn_toValue] using retry

end ScheduledJobs
