import ScheduledJobs.Proofs.Job.Domain

/-!
# What is reported of a job

Checking reports the violation of every demand that a job does not meet, once
and in the order of the demands, and nothing else.
-/

namespace ScheduledJobs

open Text

/-- What has to hold, and what is reported when it does not. -/
structure Demand where
  holds : Prop
  violation : Violation

/-- Whether the violations are those of the demands that do not hold, in the
order of the demands. -/
inductive Reports : List Demand → List Violation → Prop
  | none : Reports [] []
  | met {demand : Demand} {demands : List Demand}
      {violations : List Violation} (holds : demand.holds)
      (others : Reports demands violations) :
      Reports (demand :: demands) violations
  | broken {demand : Demand} {demands : List Demand}
      {violations : List Violation} (fails : ¬demand.holds)
      (others : Reports demands violations) :
      Reports (demand :: demands) (demand.violation :: violations)

namespace Reports

variable {α : Type} {demands others : List Demand}
  {violations found : List Violation}

theorem append (first : Reports demands violations)
    (second : Reports others found) :
    Reports (demands ++ others) (violations ++ found) := by
  induction first with
  | none => exact second
  | met holds _ ih => exact .met holds ih
  | broken fails _ ih => exact .broken fails ih

theorem require {holds : Bool} {condition : Prop} {violation : Violation}
    (decides : holds = true ↔ condition) :
    Reports [⟨condition, violation⟩] (require holds violation) := by
  cases holds with
  | true => exact .met (decides.mp rfl) .none
  | false =>
      have fails : ¬condition := fun isMet => by cases decides.mpr isMet
      exact .broken fails .none

theorem filter {passes : α → Bool} {condition : α → Prop}
    (decides : ∀ item, passes item = true ↔ condition item)
    (tell : α → Violation) (items : List α) :
    Reports (items.map fun item => ⟨condition item, tell item⟩)
      ((items.filter fun item => !passes item).map tell) := by
  induction items with
  | nil => exact .none
  | cons item items ih =>
      cases passed : passes item with
      | true =>
          rw [List.filter_cons_of_neg (by simp [passed])]
          exact .met ((decides item).mp passed) ih
      | false =>
          rw [List.filter_cons_of_pos (by simp [passed])]
          refine .broken (fun isMet => ?_) ih
          rw [(decides item).mpr isMet] at passed
          cases passed

theorem elim {part : Option α} {demand : α → List Demand}
    {find : α → List Violation}
    (each : ∀ given, Reports (demand given) (find given)) :
    Reports (part.elim [] demand) (part.elim [] find) := by
  cases part with
  | none => exact .none
  | some given => exact each given

end Reports

/-- The demand that a field holds one of the texts that are allowed. -/
def Demand.oneOf (path : String) (allowed : List String) (found : String) :
    Demand :=
  ⟨IsAmong allowed found, .field path (expectedOneOf allowed found)⟩

theorem Reports.oneOf (path : String) (allowed : List String)
    (found : String) :
    Reports [.oneOf path allowed found]
      (ScheduledJobs.require (isOneOf found allowed)
        (.field path (expectedOneOf allowed found))) :=
  .require isOneOf_iff

namespace WebAction

/-- The demands on an action that stands under a key. -/
def demands (key : String) (action : WebAction) : List Demand :=
  [⟨IsWebAddress action.url, .field (key ++ ".url")
    ("must start with http:// or https://, got " ++
      Quoted.quote action.url)⟩] ++
  [.oneOf (key ++ ".method") ["Get", "Put", "Post", "Delete"] action.method]

theorem reports (key : String) (action : WebAction) :
    Reports (action.demands key) (action.violations key) :=
  .append (.require Url.isWeb_iff) (.oneOf _ _ _)

end WebAction

namespace Retry

def demands : Retry → List Demand
  | .never => []
  | .fixed retry => [⟨IsWithin 1 20 retry.count, .field "retry.count"
      ("must be between 1 and 20, got " ++ numeral retry.count.toInt)⟩]

theorem reports (retry : Retry) : Reports retry.demands retry.violations := by
  cases retry with
  | never => exact .none
  | fixed retry => exact .require (by simp [IsWithin])

end Retry

/-- The members of a collection, none when it is left out. -/
def Presence.listed {α : Type} [Identified α]
    (presence : Presence (IdentitySet α)) : List α :=
  presence.members?.elim [] IdentitySet.members

namespace Demand

/-- The demands on the numbers of a collection. -/
def onNumbers (path range : String) (condition : Int32 → Prop)
    (numbers : Presence (IdentitySet Int32)) : List Demand :=
  numbers.listed.map fun number =>
    ⟨condition number, .field path
      ("must be in " ++ range ++ ", got " ++ numeral number.toInt)⟩

/-- The demands on the names of days. -/
def onDays (path : String) (days : List DayName) : List Demand :=
  days.map fun day =>
    ⟨day.InDomain, .field path
      ("expected a day name, got " ++ Quoted.quote day.name)⟩

/-- The demands on the numbers of days of a month. -/
def onOccurrences (days : List MonthlyOccurrence) : List Demand :=
  days.map fun numbered =>
    ⟨numbered.occurrence ≠ 0 ∧ IsWithin (-5) 5 numbered.occurrence,
      .field "recurrence.monthly_occurrences.occurrence"
        ("must be in -5..=5 excluding 0, got " ++
          numeral numbered.occurrence.toInt)⟩

/-- The demand that two ways of choosing days are not both provided. -/
def notBoth (first second : String × Bool) : Demand :=
  ⟨¬(first.2 = true ∧ second.2 = true), .conflict first.1 second.1⟩

/-- The demand that a collection has members, if it is provided. -/
def withMembers {α : Type} (path : String) (presence : Presence α) : Demand :=
  ⟨presence ≠ .empty, .field path "must contain at least 1 item"⟩

end Demand

namespace Reports

open Demand

theorem listed {α : Type} [Identified α] (demand : List α → List Demand)
    {find : List α → List Violation} (nothing : demand [] = [])
    (each : ∀ members, Reports (demand members) (find members))
    (presence : Presence (IdentitySet α)) :
    Reports (demand presence.listed)
      (presence.members?.elim [] fun set => find set.members) := by
  cases presence with
  | value set => exact each set.members
  | _ =>
      change Reports (demand []) []
      rw [nothing]
      exact .none

theorem outOfRange (path range : String) (inRange : Int → Bool)
    (condition : Int32 → Prop)
    (decides : ∀ number : Int32,
      inRange number.toInt = true ↔ condition number)
    (numbers : Presence (IdentitySet Int32)) :
    Reports (onNumbers path range condition numbers)
      (outOfRange path range inRange numbers) := by
  cases numbers with
  | value set => exact .filter decides _ set.members
  | _ => exact .none

theorem unknownDays (path : String) (days : List DayName) :
    Reports (onDays path days) (unknownDays path days) :=
  .filter (fun _ => DayName.isValid_iff) _ days

theorem unknownOccurrences (days : List MonthlyOccurrence) :
    Reports (onOccurrences days) (unknownOccurrences days) :=
  .filter (fun _ => MonthlyOccurrence.hasValidNumber_iff) _ days

theorem conflict (first second : String × Bool) :
    Reports [notBoth first second] (conflict first second) :=
  .require (by
    rw [Bool.not_eq_true', ← Bool.not_eq_true, Bool.and_eq_true])

theorem withoutMembers {α : Type} (path : String) (presence : Presence α) :
    Reports [withMembers path presence] (withoutMembers path presence) := by
  cases presence with
  | empty => exact .broken (fun given => given rfl) .none
  | _ => exact .met nofun .none

end Reports

namespace Schedule

open Demand

/-- The demands on the times of a schedule, and then on the ways in which its
days are chosen. -/
def demands (schedule : Schedule) : List Demand :=
  let weekDays := ("recurrence.week_days", schedule.weekDays.isProvided)
  let monthDays := ("recurrence.month_days", schedule.monthDays.isProvided)
  let occurrences :=
    ("recurrence.monthly_occurrences", schedule.monthlyOccurrences.isProvided)
  onNumbers "recurrence.minutes" "0..=59" (IsWithin 0 59) schedule.minutes ++
  onNumbers "recurrence.hours" "0..=23" (IsWithin 0 23) schedule.hours ++
  onNumbers "recurrence.month_days" "-31..=31 excluding 0"
    (fun day => day ≠ 0 ∧ IsWithin (-31) 31 day) schedule.monthDays ++
  onDays "recurrence.week_days" schedule.weekDays.listed ++
  (onDays "recurrence.monthly_occurrences.day"
    (schedule.monthlyOccurrences.listed.map MonthlyOccurrence.day) ++
  onOccurrences schedule.monthlyOccurrences.listed) ++
  [notBoth weekDays monthDays] ++ [notBoth weekDays occurrences] ++
  [notBoth monthDays occurrences] ++
  [withMembers "recurrence.month_days" schedule.monthDays] ++
  [withMembers "recurrence.monthly_occurrences" schedule.monthlyOccurrences]

theorem reports (schedule : Schedule) :
    Reports schedule.demands schedule.violations := by
  have minutes := Reports.outOfRange "recurrence.minutes" "0..=59"
    (fun minute => 0 ≤ minute && minute ≤ 59) (IsWithin 0 59)
    (fun _ => by simp [IsWithin]) schedule.minutes
  have hours := Reports.outOfRange "recurrence.hours" "0..=23"
    (fun hour => 0 ≤ hour && hour ≤ 23) (IsWithin 0 23)
    (fun _ => by simp [IsWithin]) schedule.hours
  have monthDays := Reports.outOfRange "recurrence.month_days"
    "-31..=31 excluding 0" (fun day => day != 0 && -31 ≤ day && day ≤ 31)
    (fun day => day ≠ 0 ∧ IsWithin (-31) 31 day)
    (fun _ => by simp [IsWithin, toInt_eq_zero_iff, and_assoc])
    schedule.monthDays
  have weekDays := Reports.listed (onDays "recurrence.week_days") rfl
    (.unknownDays _) schedule.weekDays
  have occurrences := Reports.listed
    (fun days => onDays "recurrence.monthly_occurrences.day"
      (days.map MonthlyOccurrence.day) ++ onOccurrences days) rfl
    (fun days => .append (.unknownDays _ _) (.unknownOccurrences days))
    schedule.monthlyOccurrences
  have times := (((minutes.append hours).append monthDays).append
    weekDays).append occurrences
  exact ((((times.append (.conflict _ _)).append (.conflict _ _)).append
    (.conflict _ _)).append (.withoutMembers _ _)).append
      (.withoutMembers _ _)

end Schedule

namespace Recurrence

/-- The demands on single fields of a recurrence. -/
def demands (recurrence : Recurrence) : List Demand :=
  [.oneOf "recurrence.frequency" ["Minute", "Hour", "Day", "Week", "Month"]
    recurrence.frequency] ++
  [⟨1 ≤ recurrence.interval.toInt, .field "recurrence.interval"
    ("must be at least 1, got " ++ numeral recurrence.interval.toInt)⟩] ++
  (recurrence.count.elim [] fun count =>
    [⟨1 ≤ count.toInt, .field "recurrence.count"
      ("must be between 1 and " ++ numeral Int32.maxValue.toInt ++
        ", got " ++ numeral count.toInt)⟩]) ++
  recurrence.schedule.demands

theorem reports (recurrence : Recurrence) :
    Reports recurrence.demands recurrence.violations := by
  have frequency := Reports.oneOf "recurrence.frequency"
    ["Minute", "Hour", "Day", "Week", "Month"] recurrence.frequency
  exact ((frequency.append (.require (by simp))).append
    (.elim fun count => .require (by simp))).append
      recurrence.schedule.reports

end Recurrence

namespace Job

/-- The demands on several fields of a job. -/
def structureDemands (job : Job) : List Demand :=
  [⟨job.action.isSome = true, .missingAction⟩] ++
  (job.recurrence.elim [] fun recurrence =>
    [⟨recurrence.count.isSome = true ∨ recurrence.endTime.isSome = true,
      .missingEndCondition⟩])

/-- The demands on single fields of a job. -/
def fieldDemands (job : Job) : List Demand :=
  [⟨IsName job.name, .field "name" ("must start with a letter and contain " ++
    "only letters, numbers, hyphens and underscores")⟩] ++
  [⟨IsVisible job.resourceGroup,
    .field "resource_group_name" "must not be empty"⟩] ++
  [⟨IsVisible job.collection,
    .field "job_collection_name" "must not be empty"⟩] ++
  (job.action.elim [] (WebAction.demands "action_web")) ++
  (job.errorAction.elim [] (WebAction.demands "error_action_web")) ++
  job.retry.demands ++
  (job.recurrence.elim [] Recurrence.demands) ++
  (job.state.elim [] fun state =>
    [.oneOf "state" ["Enabled", "Disabled"] state])

theorem reports_structure (job : Job) :
    Reports job.structureDemands job.structureViolations :=
  .append (.require Iff.rfl) (.elim fun _ => .require (by simp))

theorem reports_field (job : Job) :
    Reports job.fieldDemands job.fieldViolations := by
  have isVisible (text : String) :
      (!isBlankText text) = true ↔ IsVisible text := by
    rw [Bool.not_eq_true', isBlankText_eq_false_iff]
  refine .append (.append (.append (.append (.append (.append (.append ?name
    ?resourceGroup) ?collection) ?action) ?errorAction) ?retry) ?recurrence)
    ?state
  case name => exact .require isValidName_iff
  case resourceGroup => exact .require (isVisible job.resourceGroup)
  case collection => exact .require (isVisible job.collection)
  case action => exact .elim (WebAction.reports "action_web")
  case errorAction => exact .elim (WebAction.reports "error_action_web")
  case retry => exact job.retry.reports
  case recurrence => exact .elim Recurrence.reports
  case state => exact .elim fun state => .oneOf _ _ state

/-- Checking accepts exactly the jobs in the domain.  Of every other job it
reports the violations of the demands that are not met, those on several fields
first. -/
theorem isValid_iff_inDomain_and_reports (job : Job) :
    (job.isValid = true ↔ job.InDomain) ∧
      (job.violations = [] ↔ job.InDomain) ∧
      Reports (job.structureDemands ++ job.fieldDemands) job.violations := by
  have noViolation : job.isValid = true ↔ job.violations = [] :=
    List.isEmpty_iff
  exact ⟨isValid_iff_inDomain, noViolation.symm.trans isValid_iff_inDomain,
    job.reports_structure.append job.reports_field⟩

end Job

end ScheduledJobs
