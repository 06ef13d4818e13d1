import ScheduledJobs.Proofs.Document.FormReading
import ScheduledJobs.Proofs.Job.Plain
import ScheduledJobs.Proofs.Job.Reading

/-!
# Jobs are read back

A job that is written is read back without the bodies that are empty, when no
collection is said to have members that it has not.
-/

namespace ScheduledJobs

open Document

theorem BasicCredentials.recovers (given : BasicCredentials)
    (surplus : Surplus) :
    (form.readWith surplus).Recovers toValue given := by
  obtain ⟨username, password⟩ := given
  refine ⟨Form.readWith_ofFields (by simp) ?_ surplus, nofun⟩
  refine .seq (.map ?_ mk) ?_
  · exact .requiredText (by simp)
  · exact .requiredText (by simp)

theorem CertificateCredentials.recovers (given : CertificateCredentials)
    (surplus : Surplus) :
    (form.readWith surplus).Recovers toValue given := by
  obtain ⟨pfx, password, thumbprint, expiration, subjectName⟩ := given
  refine ⟨Form.readWith_ofFields (by simp) ?_ surplus, nofun⟩
  refine .seq (.seq (.seq (.seq (.map ?_ mk) ?_) ?_) ?_) ?_
  · exact .requiredText (by simp)
  · exact .requiredText (by simp)
  · exact .optionalText (by simp)
  · exact .optionalInstant (by simp)
  · exact .optionalText (by simp)

theorem DirectoryCredentials.recovers (given : DirectoryCredentials)
    (surplus : Surplus) :
    (form.readWith surplus).Recovers toValue given := by
  obtain ⟨tenantId, clientId, secret, audience⟩ := given
  refine ⟨Form.readWith_ofFields (by simp) ?_ surplus, nofun⟩
  refine .seq (.seq (.seq (.map ?_ mk) ?_) ?_) ?_
  · exact .requiredText (by simp)
  · exact .requiredText (by simp)
  · exact .requiredText (by simp)
  · exact .optionalText (by simp)

namespace WebAction

/-- The block in which an action stands. -/
def toBlock (action : WebAction) : Block where
  url := action.url
  method := action.method
  body := action.body
  headers := action.headers
  basic := match action.credentials with
    | some (.basic given) => some given
    | _ => none
  certificate := match action.credentials with
    | some (.certificate given) => some given
    | _ => none
  directory := match action.credentials with
    | some (.directory given) => some given
    | _ => none

theorem ofBlock_toBlock (action : WebAction) :
    ofBlock action.toBlock = .ok action.withoutEmptyBody := by
  obtain ⟨url, method, body, headers, credentials⟩ := action
  rcases credentials with _ | given | given | given <;>
    simp [ofBlock, toBlock, Block.credentials, withoutEmptyBody]

/-- Headers are left out when there are none. -/
theorem accepts_headers {find : String → Option Value}
    {headers : SortedMap String}
    (found : find "headers" =
      if headers.entries.isEmpty then none
      else some (.ofTextTable headers)) :
    (Form.defaulted "headers" ∅ Reader.textTable).Accepts find headers := by
  split at found
  · next empty =>
      obtain rfl : headers = ∅ :=
        SortedMap.ext (List.isEmpty_iff.mp empty)
      exact .defaulted_missing ∅ Reader.textTable found
  · exact .defaulted_given found (Reader.recovers_textTable headers).reads

theorem read_toBlock (action : WebAction) (surplus : Surplus) :
    (Block.form surplus).readWith surplus action.toValue =
      .ok action.toBlock := by
  obtain ⟨url, method, body, headers, credentials⟩ := action
  refine Form.readWith_ofFields ?_ ?_ surplus
  · rcases credentials with _ | _ | _ | _ <;> simp [Credentials.toField]
  refine .seq (.seq (.seq (.seq (.seq (.seq (.map ?_ Block.mk) ?_) ?_) ?_) ?_)
    ?_) ?_
  · exact .requiredText (by simp)
  · exact .requiredText (by simp)
  · exact .optionalText (by simp)
  · exact accepts_headers (by simp)
  all_goals
    refine .optional ?_ fun given _ => given.recovers surplus
    rcases credentials with _ | _ | _ | _ <;> simp [Credentials.toField]

theorem read_toValue (action : WebAction) (surplus : Surplus) :
    read surplus action.toValue = .ok action.withoutEmptyBody := by
  rw [read, read_toBlock, ok_bind, ofBlock_toBlock]

end WebAction

theorem FixedRetry.recovers (retry : FixedRetry) (surplus : Surplus) :
    (form.readWith surplus).Recovers toValue retry := by
  obtain ⟨interval, count⟩ := retry
  refine ⟨Form.readWith_ofFields (by simp) ?_ surplus, nofun⟩
  refine .seq (.map ?_ mk) ?_
  · exact .defaulted_given (by simp) (Reader.recovers_text interval).reads
  · exact .defaulted_given (by simp) (Reader.recovers_integer count).reads

/-- No retries are left out. -/
theorem Retry.accepts {find : String → Option Value} {name : String}
    {retry : Retry} (found : find name = retry.toValue?) (surplus : Surplus) :
    (Form.defaulted name .never (Retry.read surplus)).Accepts find retry := by
  cases retry with
  | never => exact .defaulted_missing .never (Retry.read surplus) found
  | fixed retry =>
      have recovers := retry.recovers surplus
      have reads := Form.nullable_of_reads recovers.reads recovers.given
      refine .defaulted_given found ?_
      rw [Retry.read, reads]
      rfl

theorem DayName.recovers (day : DayName) :
    DayName.read.Recovers toValue day :=
  ⟨rfl, nofun⟩

theorem MonthlyOccurrence.recovers (numbered : MonthlyOccurrence) :
    form.read.Recovers toValue numbered := by
  obtain ⟨day, occurrence⟩ := numbered
  refine ⟨Form.readWith_ofFields (by simp) ?_ .refused, nofun⟩
  refine .seq (.map ?_ mk) ?_
  · exact .required (by simp) day.recovers.reads
  · exact .required (by simp) (Reader.recovers_integer occurrence).reads

/-- A well-formed collection is told apart from one that is left out and from
one without members. -/
theorem Presence.accepts {α : Type} [Identified α] {name : String}
    {item : Reader α} {write : α → Value}
    {presence : Presence (IdentitySet α)} {find : String → Option Value}
    (wellFormed : presence.WellFormed)
    (recovers : ∀ member, item.Recovers write member)
    (found : find name = presence.toField write) :
    (Presence.field name item).Accepts find presence := by
  cases presence with
  | unset => exact .defaulted_missing .unset (Presence.read item) found
  | empty =>
      refine .defaulted_given found ?_
      rfl
  | value set =>
      have nonempty : set.isEmpty = false :=
        IdentitySet.isEmpty_eq_false_iff.mpr (wellFormed set rfl)
      have list := Reader.recovers_list fun member (_ : member ∈ set.members) =>
        recovers member
      have reads := Form.nullable_of_reads list.reads list.given
      refine .defaulted_given found ?_
      change Presence.read item (.list (set.members.map write)) = _
      rw [Presence.read, reads, ok_bind, Option.map_some,
        IdentitySet.ofList_members, ofOption, provided, nonempty]
      rfl

theorem Schedule.accepts {schedule : Schedule}
    (wellFormed : schedule.WellFormed) {find : String → Option Value}
    (found : ∀ field ∈ schedule.fields, find field.1 = field.2) :
    form.Accepts find schedule := by
  simp only [fields, List.forall_mem_cons] at found
  obtain ⟨minutes, hours, weekDays, monthDays, occurrences, -⟩ := found
  refine .seq (.seq (.seq (.seq (.map ?_ mk) ?_) ?_) ?_) ?_
  · exact Presence.accepts wellFormed.minutes Reader.recovers_integer minutes
  · exact Presence.accepts wellFormed.hours Reader.recovers_integer hours
  · exact Presence.accepts wellFormed.weekDays DayName.recovers weekDays
  · exact Presence.accepts wellFormed.monthDays Reader.recovers_integer
      monthDays
  · exact Presence.accepts wellFormed.monthlyOccurrences
      MonthlyOccurrence.recovers occurrences

/-- The fields of a recurrence besides those of its schedule. -/
def Recurrence.ownFields (recurrence : Recurrence) :
    List (String × Option Value) := [
  ("frequency", some (.text recurrence.frequency)),
  ("interval", some (.ofInteger recurrence.interval)),
  ("count", recurrence.count.map .ofInteger),
  ("end_time", recurrence.endTime.map .ofInstant)]

theorem Recurrence.accepts {recurrence : Recurrence}
    {find : String → Option Value}
    (found : ∀ field ∈ recurrence.ownFields, find field.1 = field.2) :
    form.Accepts find { recurrence with schedule := {} } := by
  obtain ⟨frequency, interval, count, endTime, schedule⟩ := recurrence
  simp only [ownFields, List.forall_mem_cons] at found
  obtain ⟨isFrequency, isInterval, isCount, isEndTime, -⟩ := found
  refine .seq (.seq (.seq (.map ?_ _) ?_) ?_) ?_
  · exact .requiredText isFrequency
  · exact .defaulted_given isInterval
      (Reader.recovers_integer interval).reads
  · exact .optionalInteger isCount
  · exact .optionalInstant isEndTime

theorem Recurrence.recovers {recurrence : Recurrence}
    (wellFormed : recurrence.schedule.WellFormed) :
    Recurrence.read.Recovers toValue recurrence := by
  let fields := recurrence.ownFields ++ recurrence.schedule.fields
  have distinct : (fields.map Prod.fst).Nodup := by
    simp [fields, ownFields, Schedule.fields]
  have found : ∀ field ∈ fields,
      Value.fieldValue? fields field.1 = field.2 := by
    simp [fields, ownFields, Schedule.fields]
  obtain ⟨ownFound, scheduleFound⟩ := List.forall_mem_append.mp found
  have own := Form.ofEntries_fieldEntries distinct (accepts ownFound)
  have schedule := Form.ofEntries_fieldEntries distinct
    (Schedule.accepts wellFormed scheduleFound)
  have readable : Value.haveReadableValues (Value.fieldEntries fields) =
      true :=
    Value.haveReadableValues_of_havePlainValues
      recurrence.fitsIn_toValue.plain
  have entries : Reader.entries recurrence.toValue =
      .ok (Value.fieldEntries fields) := rfl
  refine ⟨?_, fun isNull => Value.noConfusion isNull⟩
  simp only [read, entries, ok_bind, own, readable, schedule]
  rfl

namespace Job

theorem read_toValue_eq_withoutEmptyBodies {job : Job}
    (wellFormed : job.WellFormed) :
    Job.read job.toValue = .ok job.withoutEmptyBodies := by
  obtain ⟨name, resourceGroup, collection, action?, errorAction?, retry,
    recurrence?, startTime, state⟩ := job
  refine Form.readWith_ofFields (by simp) ?_ .refused
  refine .seq (.seq (.seq (.seq (.seq (.seq (.seq (.seq (.map ?_ mk)
    ?_) ?_) ?_) ?_) ?_) ?_) ?_) ?_
  · exact .requiredText (by simp)
  · exact .requiredText (by simp)
  · exact .requiredText (by simp)
  · exact .optionalAs (by simp) fun given _ =>
      ⟨given.read_toValue .refused, nofun⟩
  · exact .optionalAs (by simp) fun given _ =>
      ⟨given.read_toValue .refused, nofun⟩
  · exact Retry.accepts (by simp) .refused
  · exact .optional (by simp) fun given isGiven =>
      Recurrence.recovers (wellFormed given isGiven)
  · exact .optionalInstant (by simp)
  · exact .optionalText (by simp)

theorem read_toValue {job : Job} (isRead : job.IsRead) :
    Job.read job.toValue = .ok job := by
  rw [read_toValue_eq_withoutEmptyBodies isRead.wellFormed,
    withoutEmptyBodies_eq_self_iff.mpr isRead.hasNoEmptyBody]

end Job

end ScheduledJobs
