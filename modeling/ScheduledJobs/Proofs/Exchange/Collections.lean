import ScheduledJobs.Proofs.Exchange.Returned
import ScheduledJobs.Proofs.Exchange.WellFormed
import ScheduledJobs.Proofs.Job.Cycle
import ScheduledJobs.Proofs.Store.Record

/-!
# Collections that have no members

A collection is said to have members when it has none only if it is made in
another way than by reading a document or a definition.
-/

namespace ScheduledJobs

open Document

/-- Whether the collection is left out or given without members. -/
def Presence.IsBlank {α : Type} (presence : Presence α) : Prop :=
  presence = .unset ∨ presence = .empty

section

variable {α : Type} [Identified α] {presence : Presence (IdentitySet α)}

theorem Presence.isNone_members?_iff :
    presence.members?.isNone = true ↔ presence.IsBlank := by
  cases presence <;> simp [members?, IsBlank]

namespace Presence.WellFormed

variable (wellFormed : presence.WellFormed)

include wellFormed

theorem isBlank_iff :
    presence.IsBlank ↔ presence.AllMembers fun _ => False := by
  constructor
  · rintro (rfl | rfl) <;> exact nofun
  · intro noMembers
    cases presence with
    | unset => exact .inl rfl
    | empty => exact .inr rfl
    | value set =>
        have isNil : set.members = [] :=
          List.eq_nil_iff_forall_not_mem.mpr (noMembers set rfl)
        exact absurd isNil (wellFormed set rfl)

theorem ne_nil_of_memberList? {items : List α}
    (sent : presence.memberList? = some items) : items ≠ [] := by
  obtain ⟨set, isValue, rfl⟩ := exists_of_memberList? sent
  exact wellFormed set isValue

theorem ne_nil_of_map_memberList? {β : Type} {send : α → β} {items : List β}
    (sent : presence.memberList?.map (List.map send) = some items) :
    items ≠ [] := by
  obtain ⟨members, isMembers, rfl⟩ := Option.map_eq_some_iff.mp sent
  exact mt List.map_eq_nil_iff.mp (wellFormed.ne_nil_of_memberList? isMembers)

end Presence.WellFormed

end

structure Schedule.IsBlank (schedule : Schedule) : Prop where
  minutes : schedule.minutes.IsBlank
  hours : schedule.hours.IsBlank
  weekDays : schedule.weekDays.IsBlank
  monthDays : schedule.monthDays.IsBlank
  monthlyOccurrences : schedule.monthlyOccurrences.IsBlank

structure Schedule.HasNoMembers (schedule : Schedule) : Prop where
  minutes : schedule.minutes.AllMembers fun _ => False
  hours : schedule.hours.AllMembers fun _ => False
  weekDays : schedule.weekDays.AllMembers fun _ => False
  monthDays : schedule.monthDays.AllMembers fun _ => False
  monthlyOccurrences :
    schedule.monthlyOccurrences.AllMembers fun _ => False

/-- Whether every list that the timetable gives has items. -/
structure Definition.Timetable.HasNoEmptyList (timetable : Timetable) :
    Prop where
  minutes : ∀ items ∈ timetable.minutes, items ≠ []
  hours : ∀ items ∈ timetable.hours, items ≠ []
  weekDays : ∀ names ∈ timetable.weekDays, names ≠ []
  monthDays : ∀ items ∈ timetable.monthDays, items ≠ []
  monthlyOccurrences : ∀ days ∈ timetable.monthlyOccurrences, days ≠ []

namespace Schedule

variable {schedule : Schedule}

theorem isEmpty_iff_isBlank : schedule.isEmpty = true ↔ schedule.IsBlank := by
  simp only [isEmpty, Bool.and_eq_true, Presence.isNone_members?_iff]
  constructor
  · rintro ⟨⟨⟨⟨minutes, hours⟩, weekDays⟩, monthDays⟩, occurrences⟩
    exact ⟨minutes, hours, weekDays, monthDays, occurrences⟩
  · rintro ⟨minutes, hours, weekDays, monthDays, occurrences⟩
    exact ⟨⟨⟨⟨minutes, hours⟩, weekDays⟩, monthDays⟩, occurrences⟩

theorem toTimetable?_eq_none_iff :
    schedule.toTimetable? = none ↔ schedule.isEmpty = true := by
  unfold toTimetable?
  split <;> simp [*]

variable (wellFormed : schedule.WellFormed)

include wellFormed

theorem WellFormed.isBlank_iff : schedule.IsBlank ↔ schedule.HasNoMembers := by
  constructor
  · intro blank
    exact {
      minutes := wellFormed.minutes.isBlank_iff.mp blank.minutes
      hours := wellFormed.hours.isBlank_iff.mp blank.hours
      weekDays := wellFormed.weekDays.isBlank_iff.mp blank.weekDays
      monthDays := wellFormed.monthDays.isBlank_iff.mp blank.monthDays
      monthlyOccurrences :=
        wellFormed.monthlyOccurrences.isBlank_iff.mp
          blank.monthlyOccurrences }
  · intro noMembers
    exact {
      minutes := wellFormed.minutes.isBlank_iff.mpr noMembers.minutes
      hours := wellFormed.hours.isBlank_iff.mpr noMembers.hours
      weekDays := wellFormed.weekDays.isBlank_iff.mpr noMembers.weekDays
      monthDays := wellFormed.monthDays.isBlank_iff.mpr noMembers.monthDays
      monthlyOccurrences :=
        wellFormed.monthlyOccurrences.isBlank_iff.mpr
          noMembers.monthlyOccurrences }

theorem WellFormed.hasNoEmptyList {timetable : Definition.Timetable}
    (sent : schedule.toTimetable? = some timetable) :
    timetable.HasNoEmptyList := by
  unfold toTimetable? at sent
  split at sent
  · cases sent
  · obtain rfl := Option.some.inj sent
    exact {
      minutes := fun _ => wellFormed.minutes.ne_nil_of_memberList?
      hours := fun _ => wellFormed.hours.ne_nil_of_memberList?
      weekDays := fun _ => wellFormed.weekDays.ne_nil_of_map_memberList?
      monthDays := fun _ => wellFormed.monthDays.ne_nil_of_memberList?
      monthlyOccurrences := fun _ =>
        wellFormed.monthlyOccurrences.ne_nil_of_map_memberList? }

end Schedule

/-- Whether the job arises by reading a document or from a definition. -/
inductive Job.Arises : Job → Prop
  | file {text : String} {job : Job} (reads : Job.ofFile text = .ok job) :
      Arises job
  /-- The value is that of a text in JSON, for example. -/
  | value {value : Value} {job : Job} (reads : Job.read value = .ok job) :
      Arises job
  | record {value : Value} {record : Record}
      (reads : Record.read value = .ok record) : Arises record.observed
  | definition (id : JobId) (definition : Definition) :
      Arises (definition.toJob id)

namespace Job

theorem Arises.wellFormed {job : Job} (arises : job.Arises) :
    job.WellFormed := by
  cases arises with
  | file reads => exact (isRead_of_ofFile reads).wellFormed
  | value reads => exact (isRead_of_read reads).wellFormed
  | record reads =>
      obtain ⟨value, observedRead⟩ := Record.read_observed_of_read reads
      exact (isRead_of_read observedRead).wellFormed
  | definition id definition => exact definition.wellFormed_toJob id

/-- No collection of a job that arises is said to have members and has none.
Hence a schedule is empty when all its collections are blank, when none of them
has a member and when no timetable is sent for it, and every list of a
timetable that is sent has items. -/
theorem collections_of_arises {job : Job} (arises : job.Arises)
    {recurrence : Recurrence} (isGiven : job.recurrence = some recurrence) :
    recurrence.schedule.WellFormed ∧
      (recurrence.schedule.isEmpty = true ↔ recurrence.schedule.IsBlank) ∧
      (recurrence.schedule.isEmpty = true ↔
        recurrence.schedule.HasNoMembers) ∧
      (recurrence.schedule.isEmpty = true ↔
        recurrence.toRepetition.timetable = none) ∧
      ∀ timetable ∈ recurrence.toRepetition.timetable,
        timetable.HasNoEmptyList := by
  have wellFormed : recurrence.schedule.WellFormed :=
    arises.wellFormed recurrence isGiven
  refine ⟨wellFormed, Schedule.isEmpty_iff_isBlank, ?_,
    Schedule.toTimetable?_eq_none_iff.symm, ?_⟩
  · rw [Schedule.isEmpty_iff_isBlank, wellFormed.isBlank_iff]
  · exact fun timetable sent => wellFormed.hasNoEmptyList sent

/-- A definition with an hour, no minutes and a day without its number. -/
def unnumbered : Definition where
  properties := some {
    repetition := some {
      frequency := "Month"
      timetable := some {
        hours := some [3]
        minutes := some []
        monthlyOccurrences :=
          some [{ day := "Monday", occurrence := none }] } } }

/-- The day without its number is dropped, and with the minutes it is left out
when the hour is sent again. -/
theorem collections_of_arises_of_unnumbered :
    ∃ recurrence timetable,
      (unnumbered.toJob default).recurrence = some recurrence ∧
        recurrence.schedule.minutes = .empty ∧
        recurrence.schedule.monthlyOccurrences = .empty ∧
        recurrence.schedule.WellFormed ∧
        recurrence.toRepetition.timetable = some timetable ∧
        timetable.hours = some [3] ∧ timetable.minutes = none ∧
        timetable.monthlyOccurrences = none ∧ timetable.HasNoEmptyList := by
  obtain ⟨wellFormed, -, -, -, noEmptyList⟩ :=
    collections_of_arises (.definition default unnumbered) rfl
  exact ⟨_, _, rfl, rfl, rfl, wellFormed, rfl, rfl, rfl, rfl,
    noEmptyList _ rfl⟩

end Job

end ScheduledJobs
