import ScheduledJobs.Proofs.Job.Equality
import ScheduledJobs.Proofs.Text.LowerCase
import ScheduledJobs.Exchange.Incoming
import ScheduledJobs.Service.Emulator

/-!
# Days in lower case

The emulator gives the names of days back in lower case, which changes the
identity of no day.
-/

namespace ScheduledJobs

open Definition Text

/-- The numbered day with the name of the day in lower case. -/
def MonthlyOccurrence.lowered (numbered : MonthlyOccurrence) :
    MonthlyOccurrence :=
  ⟨⟨LowerCase.lower numbered.day.name⟩, numbered.occurrence⟩

namespace Emulator

theorem identity_lower_dayName (day : DayName) :
    identity (DayName.mk (LowerCase.lower day.name)) = identity day := by
  change Fingerprint.ofOctets (Utf8.encode
    (LowerCase.lower (LowerCase.lower day.name))) = _
  rw [LowerCase.lower_lower]
  rfl

theorem identity_lowered (numbered : MonthlyOccurrence) :
    identity numbered.lowered = identity numbered := by
  have text : numbered.lowered.identityText = numbered.identityText := by
    simp only [MonthlyOccurrence.identityText, MonthlyOccurrence.lowered,
      LowerCase.lower_lower]
  change Fingerprint.ofOctets (Utf8.encode
    (String.ofList numbered.lowered.identityText)) = _
  rw [text]
  rfl

theorem toOccurrence?_lowerDay (numbered : NumberedDay) :
    (lowerDay numbered).toOccurrence? =
      numbered.toOccurrence?.map MonthlyOccurrence.lowered := by
  simp only [NumberedDay.toOccurrence?, Option.map_map]
  rfl

end Emulator

/-- Items that are turned into items of the same identity make up an equal
collection. -/
theorem Definition.collected_map_beq {α β : Type} [Identified β]
    {convert : α → Option β} {turn : α → α}
    (kept : ∀ item,
      (convert (turn item)).map identity = (convert item).map identity)
    (items? : Option (List α)) :
    (collected convert (items?.map (List.map turn)) ==
      collected convert items?) = true := by
  cases items? with
  | none => rfl
  | some items =>
      apply Presence.provided_beq_provided
      apply IdentitySet.identities_ofList
      rw [List.map_filterMap, List.map_filterMap, List.filterMap_map]
      exact congrArg (List.filterMap · items) (funext kept)

namespace Emulator

theorem toSchedule_lowerTimetable_beq (timetable : Timetable) :
    ((lowerTimetable timetable).toSchedule == timetable.toSchedule) = true := by
  rw [Schedule.beq_iff]
  refine ⟨Presence.beq_self _, Presence.beq_self _, ?_, Presence.beq_self _,
    ?_⟩
  · refine Definition.collected_map_beq (fun name => ?_) timetable.weekDays
    exact congrArg some (identity_lower_dayName ⟨name⟩)
  · refine Definition.collected_map_beq (fun numbered => ?_)
      timetable.monthlyOccurrences
    rw [toOccurrence?_lowerDay, Option.map_map]
    exact Option.map_congr fun numbered _ => identity_lowered numbered

/-- A repetition is taken for the same recurrence when the names of its days
are in lower case. -/
theorem toRecurrence_lowerRepetition_beq (repetition : Repetition) :
    ((lowerRepetition repetition).toRecurrence ==
      repetition.toRecurrence) = true := by
  refine Recurrence.beq_of_schedule rfl ?_
  obtain ⟨frequency, interval, count, endTime, timetable⟩ := repetition
  cases timetable with
  | none => rfl
  | some timetable => exact toSchedule_lowerTimetable_beq timetable

theorem lowerDay_lowerDay (numbered : NumberedDay) :
    lowerDay (lowerDay numbered) = lowerDay numbered := by
  simp only [lowerDay, LowerCase.lower_lower]

theorem lowerTimetable_lowerTimetable (timetable : Timetable) :
    lowerTimetable (lowerTimetable timetable) = lowerTimetable timetable := by
  simp [lowerTimetable, Function.comp_def, lowerDay_lowerDay]

theorem lowerRepetition_lowerRepetition (repetition : Repetition) :
    lowerRepetition (lowerRepetition repetition) =
      lowerRepetition repetition := by
  simp [lowerRepetition, Function.comp_def, lowerTimetable_lowerTimetable]

end Emulator

end ScheduledJobs
