import ScheduledJobs.Exchange.Incoming
import ScheduledJobs.Exchange.Outgoing
import ScheduledJobs.Proofs.IdentitySet
import ScheduledJobs.Proofs.Job.Identity

/-!
# What survives an exchange

A declaration comes back settled: the clock has given it a start, secrets are
gone, and what the form of a definition cannot tell apart has been unified.
-/

namespace ScheduledJobs

/-- Whether a collection that is said to have members has some. -/
def Presence.WellFormed {α : Type} [Identified α]
    (presence : Presence (IdentitySet α)) : Prop :=
  ∀ set, presence = .value set → set.members ≠ []

/-- Whether every collection of the schedule is well formed. -/
structure Schedule.WellFormed (schedule : Schedule) : Prop where
  minutes : schedule.minutes.WellFormed
  hours : schedule.hours.WellFormed
  weekDays : schedule.weekDays.WellFormed
  monthDays : schedule.monthDays.WellFormed
  monthlyOccurrences : schedule.monthlyOccurrences.WellFormed

/-- Whether every collection of the job is well formed. -/
def Job.WellFormed (job : Job) : Prop :=
  ∀ recurrence, job.recurrence = some recurrence →
    recurrence.schedule.WellFormed

/-- The credentials without secrets and without what the service knows of a
certificate; the environment gives a missing audience. -/
def Credentials.settled (environment : Environment) :
    Credentials → Credentials
  | .basic given => .basic { given with password := "" }
  | .certificate _ =>
      .certificate {
        pfx := ""
        password := ""
        thumbprint := none
        expiration := none
        subjectName := none }
  | .directory given =>
      .directory {
        given with
        secret := ""
        audience := some (given.audience.getD environment.managementEndpoint) }

/-- The action with other credentials and without an empty body. -/
def WebAction.settledBy (convert : Credentials → Credentials)
    (action : WebAction) : WebAction :=
  { action with
    body := action.body.filter fun body => !body.isEmpty
    credentials := action.credentials.map convert }

/-- The collection, which is left out when it has no members. -/
def Presence.settled {α : Type} : Presence α → Presence α
  | .unset | .empty => .unset
  | .value members => .value members

/-- The schedule without collections that have no members. -/
def Schedule.settled (schedule : Schedule) : Schedule where
  minutes := schedule.minutes.settled
  hours := schedule.hours.settled
  weekDays := schedule.weekDays.settled
  monthDays := schedule.monthDays.settled
  monthlyOccurrences := schedule.monthlyOccurrences.settled

/-- The recurrence with a settled schedule. -/
def Recurrence.settled (recurrence : Recurrence) : Recurrence :=
  { recurrence with schedule := recurrence.schedule.settled }

/-- The job with a start, with other credentials, and with settled parts; there
is no error action without an action. -/
def Job.settledBy (convert : Credentials → Credentials) (now : Instant)
    (job : Job) : Job :=
  { job with
    action := job.action.map (WebAction.settledBy convert)
    errorAction :=
      if job.action.isSome then
        job.errorAction.map (WebAction.settledBy convert)
      else none
    recurrence := job.recurrence.map Recurrence.settled
    startTime := some (job.startTime.getD now) }

/-- The job as it comes back from an exchange at the given time. -/
def Job.settled (environment : Environment) (now : Instant) (job : Job) :
    Job :=
  job.settledBy (Credentials.settled environment) now

@[simp] theorem Credentials.toCredentials?_toAuthentication
    (environment : Environment) (credentials : Credentials) :
    (credentials.toAuthentication environment).toCredentials? =
      some (credentials.settled environment) := by
  cases credentials <;> rfl

@[simp] theorem WebAction.toWebAction_toRequest (environment : Environment)
    (action : WebAction) :
    (action.toRequest environment).toWebAction =
      action.settledBy (Credentials.settled environment) := by
  obtain ⟨url, method, body, headers, credentials⟩ := action
  cases credentials with
  | none => rfl
  | some credentials =>
      have taken := credentials.toCredentials?_toAuthentication environment
      simp only [toRequest, Definition.Request.toWebAction, settledBy,
        Option.map_some, Option.bind_some, taken, Option.getD_some]

@[simp] theorem WebAction.isWeb_kindOf (url : String) :
    (WebAction.kindOf url).isWeb = true := by
  unfold WebAction.kindOf
  split <;> rfl

@[simp] theorem Retry.toRetry_toPolicy (retry : Retry) :
    retry.toPolicy.toRetry = retry := by
  cases retry with
  | never => rfl
  | fixed retry =>
      obtain ⟨interval, count⟩ := retry
      by_cases empty : interval = ""
      · subst empty
        rfl
      · simp [toPolicy, Definition.RetryPolicy.toRetry, Option.filter, empty]

theorem Presence.collected_memberList? {α β : Type} [Identified α]
    {presence : Presence (IdentitySet α)} (wellFormed : presence.WellFormed)
    (send : α → β) (takeBack : β → Option α)
    (inverse : ∀ member, takeBack (send member) = some member) :
    Definition.collected takeBack (presence.memberList?.map (List.map send)) =
      presence.settled := by
  cases presence with
  | unset => rfl
  | empty => rfl
  | value set =>
      have nonempty : set.isEmpty = false :=
        IdentitySet.isEmpty_eq_false_iff.mpr (wellFormed set rfl)
      have undone : takeBack ∘ send = some := funext inverse
      have taken :
          (set.members.map send).filterMap takeBack = set.members := by
        rw [List.filterMap_map, undone, List.filterMap_some]
      simp only [memberList?, members?, Option.map_some, Definition.collected,
        taken, IdentitySet.ofList_members, provided, nonempty, settled]
      rfl

theorem Presence.settled_eq_unset {α : Type} {presence : Presence α}
    (none : presence.members?.isNone = true) : presence.settled = .unset := by
  cases presence with
  | unset => rfl
  | empty => rfl
  | value => simp [members?] at none

theorem Schedule.toSchedule_toTimetable? {schedule : Schedule}
    (wellFormed : schedule.WellFormed) :
    schedule.toTimetable?.elim {} Definition.Timetable.toSchedule =
      schedule.settled := by
  unfold toTimetable?
  split
  case isTrue empty =>
    simp only [isEmpty, Bool.and_eq_true] at empty
    obtain ⟨⟨⟨⟨minutes, hours⟩, weekDays⟩, monthDays⟩, occurrences⟩ :=
      empty
    simp only [Option.elim_none, settled, Presence.settled_eq_unset minutes,
      Presence.settled_eq_unset hours, Presence.settled_eq_unset weekDays,
      Presence.settled_eq_unset monthDays,
      Presence.settled_eq_unset occurrences]
  case isFalse =>
    have numbers {presence : Presence (IdentitySet Int32)}
        (wellFormed : presence.WellFormed) :
        Definition.collected some presence.memberList? = presence.settled := by
      simpa using
        Presence.collected_memberList? wellFormed id some fun _ => rfl
    have days := Presence.collected_memberList? wellFormed.weekDays
      DayName.name (fun name => some ⟨name⟩) fun _ => rfl
    have occurrences :=
      Presence.collected_memberList? wellFormed.monthlyOccurrences
        MonthlyOccurrence.toNumberedDay Definition.NumberedDay.toOccurrence?
        fun _ => rfl
    simp only [Option.elim_some, Definition.Timetable.toSchedule, settled,
      numbers wellFormed.minutes, numbers wellFormed.hours,
      numbers wellFormed.monthDays, days, occurrences]

theorem Recurrence.toRecurrence_toRepetition {recurrence : Recurrence}
    (wellFormed : recurrence.schedule.WellFormed) :
    recurrence.toRepetition.toRecurrence = recurrence.settled := by
  have schedule := Schedule.toSchedule_toTimetable? wellFormed
  simp only [toRepetition, Definition.Repetition.toRecurrence,
    Option.getD_some, schedule]
  rfl

@[simp] theorem Credentials.settled_settled (environment other : Environment)
    (credentials : Credentials) :
    (credentials.settled environment).settled other =
      credentials.settled environment := by
  cases credentials <;> rfl

@[simp] theorem WebAction.settledBy_settledBy
    {first second : Credentials → Credentials}
    (settled : ∀ credentials, second (first credentials) = first credentials)
    (action : WebAction) :
    (action.settledBy first).settledBy second = action.settledBy first := by
  simp [settledBy, Option.filter_filter, Function.comp_def, settled]

@[simp] theorem Presence.settled_settled {α : Type} (presence : Presence α) :
    presence.settled.settled = presence.settled := by
  cases presence <;> rfl

theorem Presence.WellFormed.settled {α : Type} [Identified α]
    {presence : Presence (IdentitySet α)} (wellFormed : presence.WellFormed) :
    presence.settled.WellFormed := by
  cases presence with
  | unset => exact nofun
  | empty => exact nofun
  | value set => exact wellFormed

theorem Schedule.WellFormed.settled {schedule : Schedule}
    (wellFormed : schedule.WellFormed) : schedule.settled.WellFormed where
  minutes := wellFormed.minutes.settled
  hours := wellFormed.hours.settled
  weekDays := wellFormed.weekDays.settled
  monthDays := wellFormed.monthDays.settled
  monthlyOccurrences := wellFormed.monthlyOccurrences.settled

@[simp] theorem Recurrence.settled_settled (recurrence : Recurrence) :
    recurrence.settled.settled = recurrence.settled := by
  simp [Recurrence.settled, Schedule.settled]

namespace Job

theorem toJob_toDefinition_eq_settled (environment : Environment)
    (now : Instant) (subscription : String) {job : Job}
    (wellFormed : job.WellFormed) :
    (job.toDefinition environment now).toJob (job.idIn subscription) =
      job.settled environment now := by
  obtain ⟨name, resourceGroup, collection, action, errorAction, retry,
    recurrence, startTime, state⟩ := job
  have repeated :
      (recurrence.map Recurrence.toRepetition).map
          Definition.Repetition.toRecurrence =
        recurrence.map Recurrence.settled := by
    cases recurrence with
    | none => rfl
    | some recurrence =>
        exact congrArg some
          (Recurrence.toRecurrence_toRepetition (wellFormed recurrence rfl))
  cases action with
  | none =>
      simp [toDefinition, Definition.toJob, toAction, settled, settledBy,
        idIn, repeated, Definition.Action.toWebAction?,
        Definition.Action.toErrorAction?, Definition.Action.isWeb,
        Definition.Action.toRetry]
  | some action =>
      have web : (WebAction.kindOf action.url).isWeb = true :=
        WebAction.isWeb_kindOf action.url
      cases errorAction <;>
        simp [toDefinition, Definition.toJob, toAction, settled, settledBy,
          idIn, repeated, Definition.Action.toWebAction?,
          Definition.Action.toErrorAction?, Definition.Action.isWeb,
          Definition.Action.toRetry, web]

theorem WellFormed.settled {job : Job} (wellFormed : job.WellFormed)
    (environment : Environment) (now : Instant) :
    (job.settled environment now).WellFormed := by
  intro recurrence isSettled
  obtain ⟨given, isGiven, rfl⟩ := Option.map_eq_some_iff.mp isSettled
  exact (wellFormed given isGiven).settled

/-- Settling a settled job again changes nothing, whatever the clock and the
environment are. -/
theorem settled_settled (environment other : Environment)
    (now later : Instant) (job : Job) :
    (job.settled environment now).settled other later =
      job.settled environment now := by
  have kept (action : WebAction) :=
    action.settledBy_settledBy (Credentials.settled_settled environment other)
  cases action : job.action <;>
    simp [settled, settledBy, action, Function.comp_def, kept]

/-- A well-formed job comes back settled from an exchange, and a settled job
comes back as it is from any other exchange. -/
theorem toJob_toDefinition (environment : Environment) (now : Instant)
    (subscription : String) (job : Job) (wellFormed : job.WellFormed) :
    (job.toDefinition environment now).toJob (job.idIn subscription) =
        job.settled environment now ∧
      ∀ (other : Environment) (later : Instant),
        ((job.settled environment now).toDefinition other later).toJob
            (job.idIn subscription) =
          job.settled environment now := by
  refine ⟨toJob_toDefinition_eq_settled environment now subscription
    wellFormed, ?_⟩
  intro other later
  have again := toJob_toDefinition_eq_settled other later subscription
    (wellFormed.settled environment now)
  rwa [settled_settled] at again

/-- A job with a certificate, an error action and an incomplete schedule. -/
def nightly : Job where
  name := "nightly"
  resourceGroup := "group"
  collection := "collection"
  action := some {
    url := "https://example.com/run"
    method := "Post"
    body := some ""
    headers := ∅
    credentials := some (.certificate {
      pfx := "MIIB"
      password := "opensesame"
      thumbprint := some "AB12"
      expiration := some .epoch
      subjectName := none }) }
  errorAction := some {
    url := "HTTP://example.com/failed"
    method := "get"
    body := some "failed"
    headers := SortedMap.ofList [("kind", "alert")]
    credentials := some (.directory {
      tenantId := "tenant"
      clientId := "client"
      secret := "opensesame"
      audience := none }) }
  retry := .fixed { interval := "" }
  recurrence := some {
    frequency := "Week"
    count := some 7
    schedule := {
      minutes := .value (.ofList [30, 0])
      hours := .empty
      weekDays := .value (.ofList [⟨"Monday"⟩, ⟨"MONDAY"⟩]) } }

theorem wellFormed_nightly : nightly.WellFormed := by
  intro recurrence isGiven
  obtain rfl := Option.some.inj isGiven
  constructor <;> intro set isSet
  · obtain rfl := Presence.value.inj isSet
    decide
  · cases isSet
  · obtain rfl := Presence.value.inj isSet
    decide
  · cases isSet
  · cases isSet

/-- The nightly job comes back without its secrets and its empty parts, and
with a start and an audience. -/
theorem toJob_toDefinition_nightly :
    (nightly.toDefinition {} .epoch).toJob (nightly.idIn "subscription") =
      { nightly with
        action := some {
          url := "https://example.com/run"
          method := "Post"
          body := none
          headers := ∅
          credentials := some (.certificate {
            pfx := ""
            password := ""
            thumbprint := none
            expiration := none
            subjectName := none }) }
        errorAction := some {
          url := "HTTP://example.com/failed"
          method := "get"
          body := some "failed"
          headers := SortedMap.ofList [("kind", "alert")]
          credentials := some (.directory {
            tenantId := "tenant"
            clientId := "client"
            secret := ""
            audience := some "https://management.core.windows.net/" }) }
        recurrence := some {
          frequency := "Week"
          count := some 7
          schedule := {
            minutes := .value (.ofList [30, 0])
            weekDays := .value (.ofList [⟨"Monday"⟩, ⟨"MONDAY"⟩]) } }
        startTime := some .epoch } :=
  (toJob_toDefinition {} .epoch "subscription" nightly wellFormed_nightly).1

end Job

end ScheduledJobs
