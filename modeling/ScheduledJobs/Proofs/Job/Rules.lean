import ScheduledJobs.Job.Validation

/-!
# The rules on jobs

The rules are told by what they ask of values and not by what is said when they
are broken.
-/

namespace ScheduledJobs

open Text

theorem elim_nil_eq_nil {α β : Type} {part : Option α} {find : α → List β} :
    part.elim [] find = [] ↔ ∀ given ∈ part, find given = [] := by
  cases part <;> simp

theorem conflict_eq_nil {first second : String × Bool} :
    conflict first second = [] ↔ ¬(first.2 = true ∧ second.2 = true) := by
  rw [conflict, require_eq_nil, Bool.not_eq_true', ← Bool.not_eq_true,
    Bool.and_eq_true]

/-- Whether every member of the collection satisfies the condition. -/
def Presence.AllMembers {α : Type} [Identified α] (condition : α → Prop)
    (presence : Presence (IdentitySet α)) : Prop :=
  ∀ set, presence = .value set → ∀ member ∈ set.members, condition member

theorem Presence.allMembers_iff {α : Type} [Identified α]
    {condition : α → Prop} {presence : Presence (IdentitySet α)} :
    presence.AllMembers condition ↔
      ∀ set ∈ presence.members?, ∀ member ∈ set.members, condition member := by
  cases presence <;> simp [AllMembers, members?]

/-- Whether the number lies between two bounds. -/
def IsWithin (least greatest : Int) (number : Int32) : Prop :=
  least ≤ number.toInt ∧ number.toInt ≤ greatest

theorem outOfRange_eq_nil {path range : String} {inRange : Int → Bool}
    {numbers : Presence (IdentitySet Int32)} :
    outOfRange path range inRange numbers = [] ↔
      numbers.AllMembers fun number => inRange number.toInt = true := by
  cases numbers <;>
    simp [outOfRange, Presence.AllMembers, Presence.members?]

theorem unknownDays_eq_nil {path : String} {days : List DayName} :
    unknownDays path days = [] ↔ ∀ day ∈ days, day.isValid = true := by
  simp [unknownDays]

theorem unknownOccurrences_eq_nil {days : List MonthlyOccurrence} :
    unknownOccurrences days = [] ↔
      ∀ numbered ∈ days, numbered.hasValidNumber = true := by
  simp [unknownOccurrences]

theorem withoutMembers_eq_nil {α : Type} {path : String}
    {presence : Presence α} :
    withoutMembers path presence = [] ↔ presence ≠ .empty := by
  cases presence <;> simp [withoutMembers]

theorem MonthlyOccurrence.hasValidNumber_iff {numbered : MonthlyOccurrence} :
    numbered.hasValidNumber = true ↔
      numbered.occurrence ≠ 0 ∧ IsWithin (-5) 5 numbered.occurrence := by
  simp [hasValidNumber, IsWithin, and_assoc]

/-- What is asked of a schedule. -/
structure Schedule.KeepsRules (schedule : Schedule) : Prop where
  minutes : schedule.minutes.AllMembers (IsWithin 0 59)
  hours : schedule.hours.AllMembers (IsWithin 0 23)
  monthDays : schedule.monthDays.AllMembers fun day =>
    day ≠ 0 ∧ IsWithin (-31) 31 day
  weekDays : schedule.weekDays.AllMembers fun day => day.isValid = true
  monthlyOccurrences : schedule.monthlyOccurrences.AllMembers fun numbered =>
    numbered.day.isValid = true ∧
      numbered.occurrence ≠ 0 ∧ IsWithin (-5) 5 numbered.occurrence
  weekOrMonthDays :
    ¬(schedule.weekDays.isProvided = true ∧
      schedule.monthDays.isProvided = true)
  weekDaysOrOccurrences :
    ¬(schedule.weekDays.isProvided = true ∧
      schedule.monthlyOccurrences.isProvided = true)
  monthDaysOrOccurrences :
    ¬(schedule.monthDays.isProvided = true ∧
      schedule.monthlyOccurrences.isProvided = true)
  someMonthDay : schedule.monthDays ≠ .empty
  someOccurrence : schedule.monthlyOccurrences ≠ .empty

theorem toInt_eq_zero_iff {number : Int32} :
    number.toInt = 0 ↔ number = 0 :=
  ⟨fun zero => Int32.toInt_inj.mp zero, fun zero => by rw [zero]; rfl⟩

theorem Schedule.violations_eq_nil {schedule : Schedule} :
    schedule.violations = [] ↔ schedule.KeepsRules := by
  have weekDays :
      (schedule.weekDays.members?.elim [] fun set =>
        unknownDays "recurrence.week_days" set.members) = [] ↔
      schedule.weekDays.AllMembers fun day => day.isValid = true := by
    simp only [elim_nil_eq_nil, unknownDays_eq_nil, Presence.allMembers_iff]
  have occurrences :
      (schedule.monthlyOccurrences.members?.elim [] fun set =>
        unknownDays "recurrence.monthly_occurrences.day"
          (set.members.map MonthlyOccurrence.day) ++
        unknownOccurrences set.members) = [] ↔
      schedule.monthlyOccurrences.AllMembers fun numbered =>
        numbered.day.isValid = true ∧
          numbered.occurrence ≠ 0 ∧
            IsWithin (-5) 5 numbered.occurrence := by
    simp only [elim_nil_eq_nil, List.append_eq_nil_iff, unknownDays_eq_nil,
      unknownOccurrences_eq_nil, Presence.allMembers_iff, List.forall_mem_map,
      MonthlyOccurrence.hasValidNumber_iff]
    refine forall₂_congr fun set isSet => ?_
    exact ⟨fun both numbered member =>
        ⟨both.1 numbered member, both.2 numbered member⟩,
      fun each => ⟨fun numbered member => (each numbered member).1,
        fun numbered member => (each numbered member).2⟩⟩
  simp only [violations, List.append_eq_nil_iff, weekDays, occurrences,
    outOfRange_eq_nil, conflict_eq_nil, withoutMembers_eq_nil,
    Bool.and_eq_true, bne_iff_ne, decide_eq_true_eq, ne_eq,
    toInt_eq_zero_iff, and_assoc]
  constructor
  · rintro ⟨minutes, hours, monthDays, weekDays, occurrences, weekOrMonth,
      weekOrOccurrences, monthOrOccurrences, someMonthDay, someOccurrence⟩
    exact ⟨minutes, hours, monthDays, weekDays, occurrences, weekOrMonth,
      weekOrOccurrences, monthOrOccurrences, someMonthDay, someOccurrence⟩
  · intro rules
    exact ⟨rules.minutes, rules.hours, rules.monthDays, rules.weekDays,
      rules.monthlyOccurrences, rules.weekOrMonthDays,
      rules.weekDaysOrOccurrences, rules.monthDaysOrOccurrences,
      rules.someMonthDay, rules.someOccurrence⟩

/-- What is asked of a recurrence, together with the condition that it ends. -/
structure Recurrence.KeepsRules (recurrence : Recurrence) : Prop where
  frequency : isOneOf recurrence.frequency allowedFrequencies = true
  interval : 1 ≤ recurrence.interval.toInt
  count : ∀ count ∈ recurrence.count, 1 ≤ count.toInt
  schedule : recurrence.schedule.KeepsRules

theorem Recurrence.violations_eq_nil {recurrence : Recurrence} :
    recurrence.violations = [] ↔ recurrence.KeepsRules := by
  simp only [violations, List.append_eq_nil_iff, require_eq_nil,
    elim_nil_eq_nil, decide_eq_true_eq, Schedule.violations_eq_nil, and_assoc]
  constructor
  · rintro ⟨frequency, interval, count, schedule⟩
    exact ⟨frequency, interval, count, schedule⟩
  · intro rules
    exact ⟨rules.frequency, rules.interval, rules.count, rules.schedule⟩

/-- What is asked of retries. -/
def Retry.KeepsRules (retry : Retry) : Prop :=
  ∀ fixed, retry = .fixed fixed → IsWithin 1 20 fixed.count

theorem Retry.violations_eq_nil {retry : Retry} :
    retry.violations = [] ↔ retry.KeepsRules := by
  cases retry <;> simp [violations, KeepsRules, IsWithin]

/-- What is asked of an action. -/
structure WebAction.KeepsRules (action : WebAction) : Prop where
  url : Url.isWeb action.url = true
  method : isOneOf action.method allowedMethods = true

theorem WebAction.violations_eq_nil {key : String} {action : WebAction} :
    action.violations key = [] ↔ action.KeepsRules := by
  simp only [violations, List.append_eq_nil_iff, require_eq_nil]
  constructor
  · rintro ⟨url, method⟩
    exact ⟨url, method⟩
  · intro rules
    exact ⟨rules.url, rules.method⟩

namespace Job

/-- What is asked of a job. -/
structure KeepsRules (job : Job) : Prop where
  hasAction : job.action.isSome = true
  ends : ∀ recurrence ∈ job.recurrence,
    recurrence.count.isSome = true ∨ recurrence.endTime.isSome = true
  name : isValidName job.name = true
  resourceGroup : isBlankText job.resourceGroup = false
  collection : isBlankText job.collection = false
  action : ∀ action ∈ job.action, action.KeepsRules
  errorAction : ∀ action ∈ job.errorAction, action.KeepsRules
  retry : job.retry.KeepsRules
  recurrence : ∀ recurrence ∈ job.recurrence, recurrence.KeepsRules
  state : ∀ state ∈ job.state, isOneOf state allowedStates = true

theorem isValid_iff {job : Job} : job.isValid = true ↔ job.KeepsRules := by
  simp only [isValid, List.isEmpty_iff, violations, structureViolations,
    fieldViolations, List.append_eq_nil_iff, require_eq_nil, elim_nil_eq_nil,
    Bool.or_eq_true, Bool.not_eq_true', WebAction.violations_eq_nil,
    Retry.violations_eq_nil, Recurrence.violations_eq_nil, and_assoc]
  constructor
  · rintro ⟨hasAction, ends, name, resourceGroup, collection, action,
      errorAction, retry, recurrence, state⟩
    exact ⟨hasAction, ends, name, resourceGroup, collection, action,
      errorAction, retry, recurrence, state⟩
  · intro rules
    exact ⟨rules.hasAction, rules.ends, rules.name, rules.resourceGroup,
      rules.collection, rules.action, rules.errorAction, rules.retry,
      rules.recurrence, rules.state⟩

/-- The rules on the action can be looked at apart from the others. -/
theorem isValid_of_action {job : Job} {action : WebAction}
    (given : job.action = some action) (rules : action.KeepsRules)
    (structured : job.structureViolations = [])
    (others : { job with action := none }.fieldViolations = []) :
    job.isValid = true := by
  have action : action.violations "action_web" = [] :=
    WebAction.violations_eq_nil.mpr rules
  rw [isValid, List.isEmpty_iff, violations, structured]
  simp only [fieldViolations, List.append_eq_nil_iff, given,
    Option.elim_some, Option.elim_none, List.nil_append] at others ⊢
  obtain ⟨⟨⟨⟨⟨⟨⟨name, group⟩, collection⟩, -⟩, errorAction⟩, retry⟩,
    recurrence⟩, state⟩ := others
  exact ⟨⟨⟨⟨⟨⟨⟨name, group⟩, collection⟩, action⟩, errorAction⟩, retry⟩,
    recurrence⟩, state⟩

end Job

end ScheduledJobs
