import ScheduledJobs.Proofs.Job.Rules
import ScheduledJobs.Proofs.Job.Url

/-!
# The domain of jobs

What a job has to be is said of its texts, numbers and collections themselves
and not through the functions that check them.
-/

namespace ScheduledJobs

open Text

/-- Whether the character is a letter of ASCII. -/
def IsLetter (character : Char) : Prop :=
  ('a' ≤ character ∧ character ≤ 'z') ∨ ('A' ≤ character ∧ character ≤ 'Z')

/-- Whether the character is a digit of ASCII. -/
def IsDigit (character : Char) : Prop := '0' ≤ character ∧ character ≤ '9'

/-- Whether the text begins with a letter and goes on with a letter, a digit, a
hyphen or an underscore. -/
def IsName (text : String) : Prop :=
  ∃ first second rest, text.toList = first :: second :: rest ∧
    IsLetter first ∧
      (IsLetter second ∨ IsDigit second ∨ second = '-' ∨ second = '_')

/-- Whether the text has a character other than white space. -/
def IsVisible (text : String) : Prop :=
  ∃ character ∈ text.toList, isBlank character = false

/-- Whether the text agrees with one that is allowed, up to the case of ASCII
letters. -/
def IsAmong (allowed : List String) (text : String) : Prop :=
  ∃ candidate ∈ allowed, foldCase candidate.toList = foldCase text.toList

/-- Whether the text begins with one of the schemes of the web, in any case,
and goes on after it. -/
def IsWebAddress (text : String) : Prop :=
  ∃ scheme ∈ ["http://", "https://"], ∃ start rest,
    text.toList = start ++ rest ∧
      foldCase start = foldCase scheme.toList ∧ rest ≠ []

theorem isAlpha_iff {character : Char} :
    character.isAlpha = true ↔ IsLetter character := by
  have isUpper : character.isUpper = true ↔
      'A' ≤ character ∧ character ≤ 'Z' := decide_eq_true_iff
  have isLower : character.isLower = true ↔
      'a' ≤ character ∧ character ≤ 'z' := by
    refine Bool.and_eq_true_iff.trans ?_
    exact and_congr decide_eq_true_iff decide_eq_true_iff
  refine Bool.or_eq_true_iff.trans ?_
  rw [isUpper, isLower, Or.comm, IsLetter]

theorem isAlphanum_iff {character : Char} :
    character.isAlphanum = true ↔
      IsLetter character ∨ IsDigit character := by
  have isDigit : character.isDigit = true ↔ IsDigit character := by
    refine Bool.and_eq_true_iff.trans ?_
    exact and_congr decide_eq_true_iff decide_eq_true_iff
  refine Bool.or_eq_true_iff.trans ?_
  rw [isAlpha_iff, isDigit]

theorem isValidName_iff {name : String} :
    isValidName name = true ↔ IsName name := by
  unfold isValidName IsName
  split
  · next first second rest isText =>
      simp only [Bool.and_eq_true, Bool.or_eq_true, beq_iff_eq, isAlpha_iff,
        isAlphanum_iff, or_assoc, isText]
      constructor
      · rintro ⟨isFirst, isSecond⟩
        exact ⟨first, second, rest, rfl, isFirst, isSecond⟩
      · rintro ⟨_, _, _, same, isFirst, isSecond⟩
        cases same
        exact ⟨isFirst, isSecond⟩
  · next tooShort =>
      simp only [Bool.false_eq_true, false_iff]
      rintro ⟨first, second, rest, isText, -⟩
      exact tooShort first second rest isText

theorem isBlankText_eq_false_iff {text : String} :
    isBlankText text = false ↔ IsVisible text := by
  simp [isBlankText, IsVisible]

theorem isOneOf_iff {text : String} {allowed : List String} :
    isOneOf text allowed = true ↔ IsAmong allowed text := by
  simp only [isOneOf, List.any_eq_true, caselessEq_iff, IsAmong]

theorem Url.isWeb_iff {url : String} : isWeb url = true ↔ IsWebAddress url := by
  have plain : IsAscii "http://".toList := by simp [IsAscii]
  have secure : IsAscii "https://".toList := by simp [IsAscii]
  simp only [isWeb, IsWebAddress, plainScheme, secureScheme, List.any_cons,
    List.any_nil, Bool.or_false, Bool.or_eq_true, Bool.and_eq_true,
    decide_eq_true_eq, hasScheme_and_lt_iff plain, hasScheme_and_lt_iff secure,
    List.mem_cons, List.not_mem_nil, or_false, exists_eq_or_imp,
    exists_eq_left]

/-- What an action has to be. -/
structure WebAction.InDomain (action : WebAction) : Prop where
  url : IsWebAddress action.url
  method : IsAmong ["Get", "Put", "Post", "Delete"] action.method

/-- Whether the text is the name of a day. -/
def DayName.InDomain (day : DayName) : Prop :=
  IsAmong ["Sunday", "Monday", "Tuesday", "Wednesday", "Thursday", "Friday",
    "Saturday"] day.name

/-- Whether the ways of choosing days are provided, by members or by none. -/
def Schedule.daySelectors (schedule : Schedule) : List Bool :=
  [schedule.weekDays.isProvided, schedule.monthDays.isProvided,
    schedule.monthlyOccurrences.isProvided]

/-- What a schedule has to be. -/
structure Schedule.InDomain (schedule : Schedule) : Prop where
  minutes : schedule.minutes.AllMembers (IsWithin 0 59)
  hours : schedule.hours.AllMembers (IsWithin 0 23)
  monthDays : schedule.monthDays.AllMembers fun day =>
    day ≠ 0 ∧ IsWithin (-31) 31 day
  weekDays : schedule.weekDays.AllMembers DayName.InDomain
  monthlyOccurrences : schedule.monthlyOccurrences.AllMembers fun numbered =>
    numbered.day.InDomain ∧
      numbered.occurrence ≠ 0 ∧ IsWithin (-5) 5 numbered.occurrence
  oneSelector : schedule.daySelectors.count true ≤ 1
  someMonthDay : schedule.monthDays ≠ .empty
  someOccurrence : schedule.monthlyOccurrences ≠ .empty

/-- What a recurrence has to be. -/
structure Recurrence.InDomain (recurrence : Recurrence) : Prop where
  ends : recurrence.count.isSome = true ∨ recurrence.endTime.isSome = true
  frequency : IsAmong ["Minute", "Hour", "Day", "Week", "Month"]
    recurrence.frequency
  interval : 1 ≤ recurrence.interval.toInt
  count : ∀ count ∈ recurrence.count, 1 ≤ count.toInt
  schedule : recurrence.schedule.InDomain

/-- What a job has to be. -/
structure Job.InDomain (job : Job) : Prop where
  hasAction : job.action.isSome = true
  name : IsName job.name
  resourceGroup : IsVisible job.resourceGroup
  collection : IsVisible job.collection
  action : ∀ action ∈ job.action, action.InDomain
  errorAction : ∀ action ∈ job.errorAction, action.InDomain
  retry : ∀ fixed, job.retry = .fixed fixed → IsWithin 1 20 fixed.count
  recurrence : ∀ recurrence ∈ job.recurrence, recurrence.InDomain
  state : ∀ state ∈ job.state, IsAmong ["Enabled", "Disabled"] state

theorem WebAction.keepsRules_iff {action : WebAction} :
    action.KeepsRules ↔ action.InDomain := by
  constructor
  · intro rules
    exact ⟨Url.isWeb_iff.mp rules.url, isOneOf_iff.mp rules.method⟩
  · intro domain
    exact ⟨Url.isWeb_iff.mpr domain.url, isOneOf_iff.mpr domain.method⟩

theorem DayName.isValid_iff {day : DayName} :
    day.isValid = true ↔ day.InDomain := isOneOf_iff

/-- Of three ways of choosing at most one is taken when no two are. -/
theorem count_le_one_iff {first second third : Bool} :
    [first, second, third].count true ≤ 1 ↔
      ¬(first = true ∧ second = true) ∧ ¬(first = true ∧ third = true) ∧
        ¬(second = true ∧ third = true) := by
  cases first <;> cases second <;> cases third <;> decide

theorem Schedule.keepsRules_iff {schedule : Schedule} :
    schedule.KeepsRules ↔ schedule.InDomain := by
  have weekDays :
      (schedule.weekDays.AllMembers fun day => day.isValid = true) ↔
        schedule.weekDays.AllMembers DayName.InDomain := by
    simp only [Presence.AllMembers, DayName.isValid_iff]
  have occurrences :
      (schedule.monthlyOccurrences.AllMembers fun numbered =>
        numbered.day.isValid = true ∧
          numbered.occurrence ≠ 0 ∧ IsWithin (-5) 5 numbered.occurrence) ↔
        schedule.monthlyOccurrences.AllMembers fun numbered =>
          numbered.day.InDomain ∧
            numbered.occurrence ≠ 0 ∧
              IsWithin (-5) 5 numbered.occurrence := by
    simp only [Presence.AllMembers, DayName.isValid_iff]
  constructor
  · intro rules
    have oneSelector := count_le_one_iff.mpr ⟨rules.weekOrMonthDays,
      rules.weekDaysOrOccurrences, rules.monthDaysOrOccurrences⟩
    exact ⟨rules.minutes, rules.hours, rules.monthDays,
      weekDays.mp rules.weekDays, occurrences.mp rules.monthlyOccurrences,
      oneSelector, rules.someMonthDay, rules.someOccurrence⟩
  · intro domain
    obtain ⟨weekOrMonth, weekOrOccurrences, monthOrOccurrences⟩ :=
      count_le_one_iff.mp domain.oneSelector
    exact ⟨domain.minutes, domain.hours, domain.monthDays,
      weekDays.mpr domain.weekDays, occurrences.mpr domain.monthlyOccurrences,
      weekOrMonth, weekOrOccurrences, monthOrOccurrences,
      domain.someMonthDay, domain.someOccurrence⟩

theorem Recurrence.keepsRules_iff {recurrence : Recurrence} :
    recurrence.KeepsRules ∧
        (recurrence.count.isSome = true ∨
          recurrence.endTime.isSome = true) ↔
      recurrence.InDomain := by
  constructor
  · rintro ⟨rules, ends⟩
    exact ⟨ends, isOneOf_iff.mp rules.frequency, rules.interval, rules.count,
      Schedule.keepsRules_iff.mp rules.schedule⟩
  · intro domain
    exact ⟨⟨isOneOf_iff.mpr domain.frequency, domain.interval, domain.count,
      Schedule.keepsRules_iff.mpr domain.schedule⟩, domain.ends⟩

namespace Job

theorem keepsRules_iff {job : Job} : job.KeepsRules ↔ job.InDomain := by
  constructor
  · intro rules
    exact {
      hasAction := rules.hasAction
      name := isValidName_iff.mp rules.name
      resourceGroup := isBlankText_eq_false_iff.mp rules.resourceGroup
      collection := isBlankText_eq_false_iff.mp rules.collection
      action := fun action given =>
        WebAction.keepsRules_iff.mp (rules.action action given)
      errorAction := fun action given =>
        WebAction.keepsRules_iff.mp (rules.errorAction action given)
      retry := rules.retry
      recurrence := fun recurrence given => Recurrence.keepsRules_iff.mp
        ⟨rules.recurrence recurrence given, rules.ends recurrence given⟩
      state := fun state given => isOneOf_iff.mp (rules.state state given) }
  · intro domain
    have recurrence (given : Recurrence) (isGiven : given ∈ job.recurrence) :=
      Recurrence.keepsRules_iff.mpr (domain.recurrence given isGiven)
    exact {
      hasAction := domain.hasAction
      ends := fun given isGiven => (recurrence given isGiven).2
      name := isValidName_iff.mpr domain.name
      resourceGroup := isBlankText_eq_false_iff.mpr domain.resourceGroup
      collection := isBlankText_eq_false_iff.mpr domain.collection
      action := fun action given =>
        WebAction.keepsRules_iff.mpr (domain.action action given)
      errorAction := fun action given =>
        WebAction.keepsRules_iff.mpr (domain.errorAction action given)
      retry := domain.retry
      recurrence := fun given isGiven => (recurrence given isGiven).1
      state := fun state given => isOneOf_iff.mpr (domain.state state given) }

theorem isValid_iff_inDomain {job : Job} :
    job.isValid = true ↔ job.InDomain := isValid_iff.trans keepsRules_iff

end Job

end ScheduledJobs
