import ScheduledJobs.Proofs.Exchange.WellFormed
import ScheduledJobs.Proofs.Service.Answer

/-!
# Timetables that come back

A well-formed timetable is taken for a schedule that keeps the rules, and what
is sent of that schedule is the timetable itself.
-/

namespace ScheduledJobs

open Definition Text

section

variable {α β : Type} [Identified β] {convert : α → Option β}
  {condition : β → Prop} {items? : Option (List α)}

theorem collected_of_isSetList {items : List α}
    (isSetList : IsSetList condition (items.filterMap convert)) :
    ∃ set : IdentitySet β, collected convert (some items) = .value set ∧
      set.members = items.filterMap convert := by
  have members := IdentitySet.members_ofList isSetList.ascending
  have nonempty : (IdentitySet.ofList (items.filterMap convert)).isEmpty =
      false := by
    rw [IdentitySet.isEmpty_eq_false_iff, members]
    exact isSetList.nonempty
  refine ⟨_, ?_, members⟩
  simp only [collected, Presence.provided, nonempty]
  rfl

variable (areSetLists : ∀ items ∈ items?,
  IsSetList condition (items.filterMap convert))

include areSetLists

theorem allMembers_collected :
    (collected convert items?).AllMembers condition := by
  cases items? with
  | none => exact nofun
  | some items =>
      have isSetList := areSetLists items rfl
      obtain ⟨set, isValue, members⟩ := collected_of_isSetList isSetList
      intro other isOther
      obtain rfl := Presence.value.inj (isValue.symm.trans isOther)
      rw [members]
      exact isSetList.satisfies

theorem isProvided_collected :
    (collected convert items?).isProvided = items?.isSome := by
  cases items? with
  | none => rfl
  | some items =>
      obtain ⟨set, isValue, -⟩ :=
        collected_of_isSetList (areSetLists items rfl)
      rw [isValue]
      rfl

theorem collected_ne_empty : collected convert items? ≠ .empty := by
  cases items? with
  | none => exact nofun
  | some items =>
      obtain ⟨set, isValue, -⟩ :=
        collected_of_isSetList (areSetLists items rfl)
      rw [isValue]
      exact nofun

theorem memberList?_collected :
    (collected convert items?).memberList? =
      items?.map (List.filterMap convert) := by
  cases items? with
  | none => rfl
  | some items =>
      obtain ⟨set, isValue, members⟩ :=
        collected_of_isSetList (areSetLists items rfl)
      rw [isValue, Option.map_some, ← members]
      rfl

end

theorem filterMap_dayName (names : List String) :
    names.filterMap (fun name => some (DayName.mk name)) =
      names.map DayName.mk :=
  congrFun List.filterMap_eq_map names

theorem filterMap_toNumberedDay (occurrences : List MonthlyOccurrence) :
    (occurrences.map MonthlyOccurrence.toNumberedDay).filterMap
        NumberedDay.toOccurrence? = occurrences := by
  rw [List.filterMap_map]
  exact List.filterMap_some

namespace Definition.Timetable.WellFormed

variable {timetable : Timetable}

theorem areSetLists_weekDays (wellFormed : timetable.WellFormed) :
    ∀ names ∈ timetable.weekDays,
      IsSetList (fun day => day.isValid = true)
        (names.filterMap fun name => some (DayName.mk name)) := by
  intro names isNames
  rw [filterMap_dayName]
  exact wellFormed.weekDays names isNames

theorem areSetLists_occurrences (wellFormed : timetable.WellFormed) :
    ∀ days ∈ timetable.monthlyOccurrences,
      IsSetList (fun numbered => numbered.day.isValid = true ∧
        numbered.occurrence ≠ 0 ∧ IsWithin (-5) 5 numbered.occurrence)
        (days.filterMap NumberedDay.toOccurrence?) := by
  intro days isDays
  obtain ⟨occurrences, rfl, isSetList⟩ :=
    wellFormed.monthlyOccurrences days isDays
  rwa [filterMap_toNumberedDay]

theorem areSetLists_some {condition : Int32 → Prop}
    {items? : Option (List Int32)}
    (setLists : ∀ items ∈ items?, IsSetList condition items) :
    ∀ items ∈ items?, IsSetList condition (items.filterMap some) := by
  intro items isItems
  rw [List.filterMap_some]
  exact setLists items isItems

theorem keepsRules_toSchedule (wellFormed : timetable.WellFormed) :
    timetable.toSchedule.KeepsRules := by
  have monthDays := areSetLists_some wellFormed.monthDays
  have weekDays := wellFormed.areSetLists_weekDays
  have occurrences := wellFormed.areSetLists_occurrences
  have choice := wellFormed.oneChoice
  simp only [List.pairwise_cons, List.mem_cons, forall_eq_or_imp] at choice
  constructor
  case minutes =>
    exact allMembers_collected (areSetLists_some wellFormed.minutes)
  case hours =>
    exact allMembers_collected (areSetLists_some wellFormed.hours)
  case monthDays => exact allMembers_collected monthDays
  case weekDays => exact allMembers_collected weekDays
  case monthlyOccurrences => exact allMembers_collected occurrences
  case weekOrMonthDays =>
    simp only [toSchedule, isProvided_collected weekDays,
      isProvided_collected monthDays]
    exact choice.1.1
  case weekDaysOrOccurrences =>
    simp only [toSchedule, isProvided_collected weekDays,
      isProvided_collected occurrences]
    exact choice.1.2.1
  case monthDaysOrOccurrences =>
    simp only [toSchedule, isProvided_collected monthDays,
      isProvided_collected occurrences]
    exact choice.2.1.1
  case someMonthDay => exact collected_ne_empty monthDays
  case someOccurrence => exact collected_ne_empty occurrences

theorem memberList?_numbers {condition : Int32 → Prop}
    {items? : Option (List Int32)}
    (setLists : ∀ items ∈ items?, IsSetList condition items) :
    (collected some items?).memberList? = items? := by
  rw [memberList?_collected (areSetLists_some setLists)]
  cases items? <;> simp

theorem memberList?_weekDays (wellFormed : timetable.WellFormed) :
    timetable.toSchedule.weekDays.memberList?.map (List.map DayName.name) =
      timetable.weekDays := by
  have members := memberList?_collected wellFormed.areSetLists_weekDays
  rw [toSchedule, members]
  cases timetable.weekDays with
  | none => rfl
  | some names =>
      rw [Option.map_some, Option.map_some, filterMap_dayName, List.map_map]
      exact congrArg some (List.map_id names)

theorem memberList?_occurrences (wellFormed : timetable.WellFormed) :
    timetable.toSchedule.monthlyOccurrences.memberList?.map
        (List.map MonthlyOccurrence.toNumberedDay) =
      timetable.monthlyOccurrences := by
  have members := memberList?_collected wellFormed.areSetLists_occurrences
  rw [toSchedule, members]
  cases given : timetable.monthlyOccurrences with
  | none => rfl
  | some days =>
      obtain ⟨occurrences, rfl, -⟩ :=
        wellFormed.monthlyOccurrences days given
      rw [Option.map_some, Option.map_some, filterMap_toNumberedDay]

theorem toTimetable?_toSchedule (wellFormed : timetable.WellFormed) :
    timetable.toSchedule.toTimetable? = some timetable := by
  have minutes : timetable.toSchedule.minutes.memberList? =
      timetable.minutes := memberList?_numbers wellFormed.minutes
  have hours : timetable.toSchedule.hours.memberList? = timetable.hours :=
    memberList?_numbers wellFormed.hours
  have monthDays : timetable.toSchedule.monthDays.memberList? =
      timetable.monthDays := memberList?_numbers wellFormed.monthDays
  have weekDays := wellFormed.memberList?_weekDays
  have occurrences := wellFormed.memberList?_occurrences
  have nonempty : ¬timetable.toSchedule.isEmpty = true := by
    have someList := wellFormed.someList
    rw [← weekDays, ← occurrences, ← minutes, ← hours, ← monthDays,
      Option.isSome_map, Option.isSome_map] at someList
    simp only [Schedule.isEmpty, ← Presence.isNone_memberList?,
      Bool.and_eq_true, Option.isNone_iff_eq_none]
    rintro ⟨⟨⟨⟨noMinutes, noHours⟩, noWeekDays⟩, noMonthDays⟩, noOccurrences⟩
    simp [noMinutes, noHours, noWeekDays, noMonthDays, noOccurrences]
      at someList
  rw [Schedule.toTimetable?, if_neg nonempty, minutes, hours, monthDays,
    weekDays, occurrences]

end Definition.Timetable.WellFormed

theorem DayName.isValid_lower {day : DayName} (valid : day.isValid = true) :
    (DayName.mk (LowerCase.lower day.name)).isValid = true := by
  have folded := toList_lower_of_isValid valid
  obtain ⟨candidate, isName, agrees⟩ := List.any_eq_true.mp valid
  refine List.any_eq_true.mpr ⟨candidate, isName, ?_⟩
  rw [caselessEq_iff] at agrees ⊢
  rw [folded, foldCase_foldCase]
  exact agrees

theorem IsSetList.map {α : Type} [Identified α] {condition : α → Prop}
    {items : List α} (isSetList : IsSetList condition items) (turn : α → α)
    (kept : ∀ item, condition item → identity (turn item) = identity item)
    (keeps : ∀ item, condition item → condition (turn item)) :
    IsSetList condition (items.map turn) where
  nonempty := by simpa using isSetList.nonempty
  ascending := by
    rw [List.pairwise_map]
    refine isSetList.ascending.imp_of_mem ?_
    intro earlier later isEarlier isLater less
    rwa [kept earlier (isSetList.satisfies earlier isEarlier),
      kept later (isSetList.satisfies later isLater)]
  satisfies := by
    rw [List.forall_mem_map]
    exact fun item member => keeps item (isSetList.satisfies item member)

namespace Emulator

theorem wellFormed_lowerTimetable {timetable : Timetable}
    (wellFormed : timetable.WellFormed) :
    (lowerTimetable timetable).WellFormed where
  someList := by simpa [lowerTimetable] using wellFormed.someList
  minutes := wellFormed.minutes
  hours := wellFormed.hours
  monthDays := wellFormed.monthDays
  weekDays := by
    intro lowered isLowered
    obtain ⟨names, isNames, rfl⟩ := Option.map_eq_some_iff.mp isLowered
    have turned := (wellFormed.weekDays names isNames).map
      (fun day => ⟨LowerCase.lower day.name⟩)
      (fun day _ => identity_lower_dayName day) fun _ => DayName.isValid_lower
    simpa [List.map_map, Function.comp_def] using turned
  monthlyOccurrences := by
    intro lowered isLowered
    obtain ⟨days, isDays, rfl⟩ := Option.map_eq_some_iff.mp isLowered
    obtain ⟨occurrences, rfl, isSetList⟩ :=
      wellFormed.monthlyOccurrences days isDays
    refine ⟨occurrences.map MonthlyOccurrence.lowered, ?_, ?_⟩
    · simp [List.map_map, Function.comp_def, lowerDay,
        MonthlyOccurrence.lowered, MonthlyOccurrence.toNumberedDay]
    · exact isSetList.map MonthlyOccurrence.lowered
        (fun numbered _ => identity_lowered numbered)
        fun _ valid => ⟨DayName.isValid_lower valid.1, valid.2⟩
  oneChoice := by simpa [lowerTimetable] using wellFormed.oneChoice

variable {recurrence : Recurrence}

/-- A recurrence that comes back with the names of its days in lower case keeps
the rules. -/
theorem keepsRules_toRecurrence_lowerRepetition
    (wellFormed : recurrence.schedule.WellFormed)
    (rules : recurrence.KeepsRules) :
    (lowerRepetition recurrence.toRepetition).toRecurrence.KeepsRules where
  frequency := rules.frequency
  interval := rules.interval
  count := rules.count
  schedule := by
    cases sent : recurrence.schedule.toTimetable? with
    | none =>
        simp only [lowerRepetition, Recurrence.toRepetition, sent,
          Repetition.toRecurrence]
        constructor <;> simp [Presence.AllMembers, Presence.isProvided,
          Presence.isUnset]
    | some timetable =>
        have sentWellFormed := Schedule.wellFormed_toTimetable? wellFormed
          rules.schedule sent
        simp only [lowerRepetition, Recurrence.toRepetition, sent,
          Repetition.toRecurrence, Option.map_some, Option.elim_some]
        exact (wellFormed_lowerTimetable sentWellFormed).keepsRules_toSchedule

/-- What is sent of a recurrence that has come back is stored as before. -/
theorem lowerRepetition_toRepetition_toRecurrence
    (wellFormed : recurrence.schedule.WellFormed)
    (rules : recurrence.KeepsRules) :
    lowerRepetition
        (lowerRepetition recurrence.toRepetition).toRecurrence.toRepetition =
      lowerRepetition recurrence.toRepetition := by
  cases sent : recurrence.schedule.toTimetable? with
  | none =>
      simp only [lowerRepetition, Recurrence.toRepetition, sent,
        Repetition.toRecurrence]
      rfl
  | some timetable =>
      have sentWellFormed := Schedule.wellFormed_toTimetable? wellFormed
        rules.schedule sent
      have again :=
        (wellFormed_lowerTimetable sentWellFormed).toTimetable?_toSchedule
      have stable := lowerTimetable_lowerTimetable timetable
      simp only [lowerRepetition, Recurrence.toRepetition, sent,
        Repetition.toRecurrence, Option.map_some, Option.elim_some, again,
        stable, Option.getD_some]

end Emulator

end ScheduledJobs
