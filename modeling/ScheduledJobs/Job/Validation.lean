import ScheduledJobs.Job.Basic
import ScheduledJobs.Job.Url
import ScheduledJobs.Text.Blank

/-!
# Checking job declarations

Some declarations would be accepted by the service and then come to nothing.
Every rule that such a declaration breaks is reported, the rules on several
fields before the rules on single ones.
-/

namespace ScheduledJobs

open Text

/-- A rule that a declaration breaks. -/
inductive Violation where
  | missingAction
  | missingEndCondition
  /-- Two fields of which at most one may be given. -/
  | conflict (first second : String)
  /-- A field with a value outside its domain. -/
  | field (path reason : String)
  deriving DecidableEq

namespace Violation

def message : Violation → String
  | .missingAction => "`action_web` must be set"
  | .missingEndCondition =>
      "one of `count` or `end_time` must be set for the `recurrence` block"
  | .conflict first second =>
      "`" ++ first ++ "` conflicts with `" ++ second ++ "`"
  | .field path reason => "`" ++ path ++ "`: " ++ reason

/-- The messages of violations, with semicolons between them. -/
def messages (violations : List Violation) : String :=
  String.intercalate "; " (violations.map message)

end Violation

/-- No violation when the condition holds. -/
def require (holds : Bool) (violation : Violation) : List Violation :=
  if holds then [] else [violation]

@[simp] theorem require_eq_nil {holds : Bool} {violation : Violation} :
    require holds violation = [] ↔ holds = true := by
  cases holds <;> simp [require]

def allowedMethods : List String := ["Get", "Put", "Post", "Delete"]

def allowedFrequencies : List String :=
  ["Minute", "Hour", "Day", "Week", "Month"]

def dayNames : List String :=
  ["Sunday", "Monday", "Tuesday", "Wednesday", "Thursday", "Friday",
    "Saturday"]

/-- States in which a job can be declared. -/
def allowedStates : List String := ["Enabled", "Disabled"]

def numeral (number : Int) : String := String.ofList (Decimal.integer number)

/-- The reason against a text that is none of the allowed ones. -/
def expectedOneOf (allowed : List String) (found : String) : String :=
  "expected one of " ++ Quoted.quoteList allowed ++ ", got " ++
    Quoted.quote found

/-- A name begins with a letter and goes on with a letter, a digit, a hyphen or
an underscore; anything may follow. -/
def isValidName (name : String) : Bool :=
  match name.toList with
  | first :: second :: _ =>
      first.isAlpha && (second.isAlphanum || second == '-' || second == '_')
  | _ => false

/-- Whether the text is the name of a day, in any case. -/
def DayName.isValid (day : DayName) : Bool := isOneOf day.name dayNames

/-- Whether the number is one of the first or last five, in a month. -/
def MonthlyOccurrence.hasValidNumber (numbered : MonthlyOccurrence) : Bool :=
  numbered.occurrence != 0 && -5 ≤ numbered.occurrence.toInt &&
    numbered.occurrence.toInt ≤ 5

/-- The rules on an action that stands under the given key. -/
def WebAction.violations (key : String) (action : WebAction) :
    List Violation :=
  require (Url.isWeb action.url)
    (.field (key ++ ".url")
      ("must start with http:// or https://, got " ++
        Quoted.quote action.url)) ++
  require (isOneOf action.method allowedMethods)
    (.field (key ++ ".method") (expectedOneOf allowedMethods action.method))

def Retry.violations : Retry → List Violation
  | .never => []
  | .fixed retry =>
      require (1 ≤ retry.count.toInt && retry.count.toInt ≤ 20)
        (.field "retry.count"
          ("must be between 1 and 20, got " ++ numeral retry.count.toInt))

/-- The numbers of a collection that do not satisfy the condition. -/
def outOfRange (path range : String) (inRange : Int → Bool)
    (numbers : Presence (IdentitySet Int32)) : List Violation :=
  match numbers.members? with
  | none => []
  | some set =>
      (set.members.filter fun number => !inRange number.toInt).map
        fun number => .field path
          ("must be in " ++ range ++ ", got " ++ numeral number.toInt)

def unknownDays (path : String) (days : List DayName) : List Violation :=
  (days.filter fun day => !day.isValid).map fun day =>
    .field path ("expected a day name, got " ++ Quoted.quote day.name)

def unknownOccurrences (days : List MonthlyOccurrence) : List Violation :=
  (days.filter fun numbered => !numbered.hasValidNumber).map fun numbered =>
    .field "recurrence.monthly_occurrences.occurrence"
      ("must be in -5..=5 excluding 0, got " ++
        numeral numbered.occurrence.toInt)

/-- Two ways of choosing days that are both given, even without members. -/
def conflict (first second : String × Bool) : List Violation :=
  require (!(first.2 && second.2)) (.conflict first.1 second.1)

def withoutMembers {α : Type} (path : String) (presence : Presence α) :
    List Violation :=
  match presence with
  | .empty => [.field path "must contain at least 1 item"]
  | _ => []

def Schedule.violations (schedule : Schedule) : List Violation :=
  let weekDays := ("recurrence.week_days", schedule.weekDays.isProvided)
  let monthDays := ("recurrence.month_days", schedule.monthDays.isProvided)
  let occurrences :=
    ("recurrence.monthly_occurrences", schedule.monthlyOccurrences.isProvided)
  outOfRange "recurrence.minutes" "0..=59"
    (fun minute => 0 ≤ minute && minute ≤ 59) schedule.minutes ++
  outOfRange "recurrence.hours" "0..=23"
    (fun hour => 0 ≤ hour && hour ≤ 23) schedule.hours ++
  outOfRange "recurrence.month_days" "-31..=31 excluding 0"
    (fun day => day != 0 && -31 ≤ day && day ≤ 31) schedule.monthDays ++
  (schedule.weekDays.members?.elim [] fun set =>
    unknownDays "recurrence.week_days" set.members) ++
  (schedule.monthlyOccurrences.members?.elim [] fun set =>
    unknownDays "recurrence.monthly_occurrences.day"
      (set.members.map MonthlyOccurrence.day) ++
    unknownOccurrences set.members) ++
  conflict weekDays monthDays ++ conflict weekDays occurrences ++
  conflict monthDays occurrences ++
  withoutMembers "recurrence.month_days" schedule.monthDays ++
  withoutMembers "recurrence.monthly_occurrences" schedule.monthlyOccurrences

/-- The rules on single fields of a recurrence. -/
def Recurrence.violations (recurrence : Recurrence) : List Violation :=
  require (isOneOf recurrence.frequency allowedFrequencies)
    (.field "recurrence.frequency"
      (expectedOneOf allowedFrequencies recurrence.frequency)) ++
  require (1 ≤ recurrence.interval.toInt)
    (.field "recurrence.interval"
      ("must be at least 1, got " ++ numeral recurrence.interval.toInt)) ++
  (recurrence.count.elim [] fun count =>
    require (1 ≤ count.toInt)
      (.field "recurrence.count"
        ("must be between 1 and " ++ numeral Int32.maxValue.toInt ++
          ", got " ++ numeral count.toInt))) ++
  recurrence.schedule.violations

namespace Job

def structureViolations (job : Job) : List Violation :=
  require job.action.isSome .missingAction ++
  (job.recurrence.elim [] fun recurrence =>
    require (recurrence.count.isSome || recurrence.endTime.isSome)
      .missingEndCondition)

/-- The rules on single fields. -/
def fieldViolations (job : Job) : List Violation :=
  require (isValidName job.name)
    (.field "name" ("must start with a letter and contain only letters, " ++
      "numbers, hyphens and underscores")) ++
  require (!isBlankText job.resourceGroup)
    (.field "resource_group_name" "must not be empty") ++
  require (!isBlankText job.collection)
    (.field "job_collection_name" "must not be empty") ++
  (job.action.elim [] (WebAction.violations "action_web")) ++
  (job.errorAction.elim [] (WebAction.violations "error_action_web")) ++
  job.retry.violations ++
  (job.recurrence.elim [] Recurrence.violations) ++
  (job.state.elim [] fun state =>
    require (isOneOf state allowedStates)
      (.field "state" (expectedOneOf allowedStates state)))

def violations (job : Job) : List Violation :=
  job.structureViolations ++ job.fieldViolations

def isValid (job : Job) : Bool := job.violations.isEmpty

end Job

end ScheduledJobs
