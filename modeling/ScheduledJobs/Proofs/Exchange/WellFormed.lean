import ScheduledJobs.Proofs.Exchange.Requests
import ScheduledJobs.Proofs.Exchange.Settled
import ScheduledJobs.Proofs.Job.Reading
import ScheduledJobs.Proofs.Job.Rules
import ScheduledJobs.Proofs.Job.Url

/-!
# What is sent is well formed

What it takes for a definition to be well formed is told by the definition
alone, without the job or the rules on jobs.
-/

namespace ScheduledJobs

open Definition Text

/-- Whether the address begins with the scheme of encrypted requests, in any
case. -/
def Url.BeginsSecurely (url : String) : Prop :=
  foldCase (url.toList.take 8) = "https://".toList

instance (url : String) : Decidable (Url.BeginsSecurely url) :=
  inferInstanceAs (Decidable (_ = _))

/-- Whether a list holds the members of a set: it has some, they ascend by
their identities, and they all satisfy the condition. -/
structure IsSetList {α : Type} [Identified α] (condition : α → Prop)
    (items : List α) : Prop where
  nonempty : items ≠ []
  ascending : items.Pairwise fun earlier later =>
    identity earlier < identity later
  satisfies : ∀ item ∈ items, condition item

namespace Definition

/-- Whether a request is made, and its kind is that of its address. -/
def IsWebRequest (kind? : Option ActionKind) (request? : Option Request) :
    Prop :=
  ∃ request url, request? = some request ∧ request.uri = some url ∧
    kind? = some (if Url.BeginsSecurely url then .https else .http)

/-- Whether retries are either never made, or made up to twenty times. -/
def RetryPolicy.WellFormed (policy : RetryPolicy) : Prop :=
  policy.kind = some .never ∧ policy.interval = none ∧ policy.count = none ∨
    policy.kind = some .fixed ∧
      ∃ count, policy.count = some count ∧ IsWithin 1 20 count

structure Action.WellFormed (action : Action) : Prop where
  main : IsWebRequest action.kind action.request
  error : ∀ error ∈ action.errorAction, IsWebRequest error.kind error.request
  retryPolicy : ∃ policy ∈ action.retryPolicy, policy.WellFormed

/-- Whether there is some list in the timetable, every list holds the members
of a set within its range, and days are chosen in one way at most. -/
structure Timetable.WellFormed (timetable : Timetable) : Prop where
  someList : timetable.minutes.isSome = true ∨ timetable.hours.isSome = true ∨
    timetable.weekDays.isSome = true ∨ timetable.monthDays.isSome = true ∨
    timetable.monthlyOccurrences.isSome = true
  minutes : ∀ items ∈ timetable.minutes, IsSetList (IsWithin 0 59) items
  hours : ∀ items ∈ timetable.hours, IsSetList (IsWithin 0 23) items
  monthDays : ∀ items ∈ timetable.monthDays,
    IsSetList (fun day => day ≠ 0 ∧ IsWithin (-31) 31 day) items
  weekDays : ∀ names ∈ timetable.weekDays,
    IsSetList (fun day => day.isValid = true) (names.map DayName.mk)
  /-- Every numbered day has its number. -/
  monthlyOccurrences : ∀ days ∈ timetable.monthlyOccurrences,
    ∃ occurrences : List MonthlyOccurrence,
      days = occurrences.map MonthlyOccurrence.toNumberedDay ∧
        IsSetList (fun numbered => numbered.day.isValid = true ∧
          numbered.occurrence ≠ 0 ∧ IsWithin (-5) 5 numbered.occurrence)
          occurrences
  oneChoice : [timetable.weekDays.isSome, timetable.monthDays.isSome,
    timetable.monthlyOccurrences.isSome].Pairwise fun first second =>
      ¬(first = true ∧ second = true)

structure Repetition.WellFormed (repetition : Repetition) : Prop where
  interval : ∃ interval ∈ repetition.interval, 1 ≤ interval.toInt
  count : ∀ count ∈ repetition.count, 1 ≤ count.toInt
  ends : repetition.count.isSome = true ∨ repetition.endTime.isSome = true
  timetable : ∀ timetable ∈ repetition.timetable, timetable.WellFormed

structure Properties.WellFormed (properties : Properties) : Prop where
  startTime : properties.startTime.isSome = true
  action : ∃ action ∈ properties.action, action.WellFormed
  repetition : ∀ repetition ∈ properties.repetition, repetition.WellFormed

protected def WellFormed (definition : Definition) : Prop :=
  ∃ properties ∈ definition.properties, properties.WellFormed

end Definition

section

variable {α : Type} [Identified α] {presence : Presence (IdentitySet α)}

theorem Presence.exists_of_memberList? {items : List α}
    (sent : presence.memberList? = some items) :
    ∃ set, presence = .value set ∧ set.members = items := by
  cases presence with
  | unset => cases sent
  | empty => cases sent
  | value set => exact ⟨set, rfl, Option.some.inj sent⟩

theorem Presence.isSetList_of_memberList? {condition : α → Prop}
    (wellFormed : presence.WellFormed)
    (allMembers : presence.AllMembers condition) {items : List α}
    (sent : presence.memberList? = some items) :
    IsSetList condition items := by
  obtain ⟨set, isValue, rfl⟩ := exists_of_memberList? sent
  exact ⟨wellFormed set isValue, set.ascending, allMembers set isValue⟩

theorem Presence.isProvided_of_isSome_memberList?
    (sent : presence.memberList?.isSome = true) :
    presence.isProvided = true := by
  cases presence with
  | unset => cases sent
  | empty => cases sent
  | value set => rfl

/-- Of two collections of which one at most may be given, one at most is
sent. -/
theorem Presence.not_both_sent {β : Type} [Identified β]
    {other : Presence (IdentitySet β)}
    (notBoth : ¬(presence.isProvided = true ∧ other.isProvided = true)) :
    ¬(presence.memberList?.isSome = true ∧
      other.memberList?.isSome = true) := fun both =>
  notBoth ⟨isProvided_of_isSome_memberList? both.1,
    isProvided_of_isSome_memberList? both.2⟩

theorem Presence.isNone_memberList? :
    presence.memberList?.isNone = presence.members?.isNone := by
  cases presence <;> rfl

end

theorem Schedule.some_memberList_of_not_isEmpty {schedule : Schedule}
    (nonempty : ¬schedule.isEmpty = true) :
    schedule.minutes.memberList?.isSome = true ∨
      schedule.hours.memberList?.isSome = true ∨
      schedule.weekDays.memberList?.isSome = true ∨
      schedule.monthDays.memberList?.isSome = true ∨
      schedule.monthlyOccurrences.memberList?.isSome = true := by
  simp only [← Option.not_isNone, Presence.isNone_memberList?,
    Bool.not_eq_true', ← Bool.not_eq_true]
  simpa only [isEmpty, Bool.and_eq_true, Decidable.not_and_iff_not_or_not,
    or_assoc] using nonempty

theorem Schedule.wellFormed_toTimetable? {schedule : Schedule}
    (wellFormed : schedule.WellFormed) (rules : schedule.KeepsRules)
    {timetable : Timetable}
    (sent : schedule.toTimetable? = some timetable) :
    timetable.WellFormed := by
  unfold toTimetable? at sent
  split at sent
  · cases sent
  · next nonempty =>
      obtain rfl := Option.some.inj sent
      constructor
      case someList => simpa using some_memberList_of_not_isEmpty nonempty
      case minutes =>
        exact fun items =>
          Presence.isSetList_of_memberList? wellFormed.minutes rules.minutes
      case hours =>
        exact fun items =>
          Presence.isSetList_of_memberList? wellFormed.hours rules.hours
      case monthDays =>
        exact fun items =>
          Presence.isSetList_of_memberList? wellFormed.monthDays
            rules.monthDays
      case weekDays =>
        intro names isNames
        obtain ⟨members, isMembers, rfl⟩ :=
          Option.map_eq_some_iff.mp isNames
        have same : (members.map DayName.name).map DayName.mk = members := by
          rw [List.map_map]
          exact List.map_id members
        rw [same]
        exact Presence.isSetList_of_memberList? wellFormed.weekDays
          rules.weekDays isMembers
      case monthlyOccurrences =>
        intro days isDays
        obtain ⟨members, isMembers, rfl⟩ :=
          Option.map_eq_some_iff.mp isDays
        exact ⟨members, rfl, Presence.isSetList_of_memberList?
          wellFormed.monthlyOccurrences rules.monthlyOccurrences isMembers⟩
      case oneChoice =>
        simp only [Option.isSome_map]
        have weekOrMonthDays := Presence.not_both_sent rules.weekOrMonthDays
        have weekDaysOrOccurrences :=
          Presence.not_both_sent rules.weekDaysOrOccurrences
        have monthDaysOrOccurrences :=
          Presence.not_both_sent rules.monthDaysOrOccurrences
        refine .cons ?_ (.cons ?_ (List.pairwise_singleton _ _))
        · exact List.forall_mem_cons.mpr ⟨weekOrMonthDays,
            List.forall_mem_singleton.mpr weekDaysOrOccurrences⟩
        · exact List.forall_mem_singleton.mpr monthDaysOrOccurrences

theorem Recurrence.wellFormed_toRepetition {recurrence : Recurrence}
    (wellFormed : recurrence.schedule.WellFormed)
    (rules : recurrence.KeepsRules)
    (ends : recurrence.count.isSome = true ∨
      recurrence.endTime.isSome = true) :
    recurrence.toRepetition.WellFormed where
  interval := ⟨recurrence.interval, rfl, rules.interval⟩
  count := rules.count
  ends := ends
  timetable := fun _ sent =>
    Schedule.wellFormed_toTimetable? wellFormed rules.schedule sent

theorem Url.isSecure_iff (url : String) :
    Url.isSecure url = true ↔ Url.BeginsSecurely url := by
  have ascii : IsAscii secureScheme.toList := by
    simp [IsAscii, secureScheme]
  have folded : foldCase secureScheme.toList = "https://".toList := by decide
  rw [isSecure, hasScheme_iff ascii, folded]
  rfl

theorem WebAction.kindOf_eq (url : String) :
    WebAction.kindOf url =
      if Url.BeginsSecurely url then .https else .http := by
  simp only [kindOf, Url.isSecure_iff]

theorem WebAction.isWebRequest (environment : Environment)
    (action : WebAction) :
    IsWebRequest (some (kindOf action.url))
      (some (action.toRequest environment)) :=
  ⟨_, action.url, rfl, rfl, congrArg some (kindOf_eq action.url)⟩

theorem Retry.wellFormed_toPolicy {retry : Retry}
    (rules : retry.KeepsRules) : retry.toPolicy.WellFormed := by
  cases retry with
  | never => exact .inl ⟨rfl, rfl, rfl⟩
  | fixed fixed => exact .inr ⟨rfl, fixed.count, rfl, rules fixed rfl⟩

namespace Job

theorem wellFormed_toAction {job : Job} (rules : job.KeepsRules)
    (environment : Environment) :
    (job.toAction environment).WellFormed where
  main := by
    obtain ⟨action, isAction⟩ := Option.isSome_iff_exists.mp rules.hasAction
    simpa [toAction, isAction] using action.isWebRequest environment
  error := by
    intro error isError
    obtain ⟨action, -, rfl⟩ := Option.map_eq_some_iff.mp isError
    exact action.isWebRequest environment
  retryPolicy :=
    ⟨job.retry.toPolicy, rfl, Retry.wellFormed_toPolicy rules.retry⟩

theorem wellFormed_toDefinition {job : Job} (wellFormed : job.WellFormed)
    (rules : job.KeepsRules) (environment : Environment) (now : Instant) :
    (job.toDefinition environment now).WellFormed := by
  refine ⟨_, rfl, rfl, ⟨_, rfl, wellFormed_toAction rules environment⟩, ?_⟩
  intro repetition isSent
  obtain ⟨recurrence, isGiven, rfl⟩ := Option.map_eq_some_iff.mp isSent
  exact Recurrence.wellFormed_toRepetition (wellFormed recurrence isGiven)
    (rules.recurrence recurrence isGiven) (rules.ends recurrence isGiven)

theorem map_uri_requests_toDefinition (environment : Environment)
    (now : Instant) (job : Job) :
    (job.toDefinition environment now).requests.map Request.uri =
      job.webActions.map fun action => some action.url := by
  rw [requests_toDefinition, List.map_map]
  rfl

end Job

end ScheduledJobs
