import ScheduledJobs.Job.Reading
import ScheduledJobs.Proofs.Document.FormResults
import ScheduledJobs.Proofs.Exchange.Settled

/-! # Jobs that have been read -/

namespace ScheduledJobs

open Document

theorem Presence.wellFormed_ofOption {α : Type} [Identified α]
    (set? : Option (IdentitySet α)) : (ofOption set?).WellFormed := by
  intro set isValue
  cases set? with
  | none => cases isValue
  | some given =>
      simp only [ofOption, provided] at isValue
      split at isValue
      · cases isValue
      · next nonempty =>
          obtain rfl := Presence.value.inj isValue
          exact IdentitySet.isEmpty_eq_false_iff.mp (by simpa using nonempty)

theorem Presence.wellFormed_of_builds {α : Type} [Identified α]
    {name : String} {item : Reader α} {presence : Presence (IdentitySet α)}
    (builds : (Presence.field name item).Builds presence) :
    presence.WellFormed := by
  rcases builds.of_defaulted with rfl | ⟨value, reads⟩
  · exact nofun
  · obtain ⟨items, -, same⟩ := eq_ok_of_bind_eq_ok reads
    obtain rfl := Except.ok.inj same
    exact wellFormed_ofOption _

theorem Schedule.wellFormed_of_builds {schedule : Schedule}
    (builds : Schedule.form.Builds schedule) : schedule.WellFormed := by
  obtain ⟨_, occurrences, rest₁, occurrencesBuilt, rfl⟩ := builds.of_seq
  obtain ⟨_, monthDays, rest₂, monthDaysBuilt, rfl⟩ := rest₁.of_seq
  obtain ⟨_, weekDays, rest₃, weekDaysBuilt, rfl⟩ := rest₂.of_seq
  obtain ⟨_, hours, rest₄, hoursBuilt, rfl⟩ := rest₃.of_seq
  obtain ⟨minutes, minutesBuilt, rfl⟩ := rest₄.of_map
  exact {
    minutes := Presence.wellFormed_of_builds minutesBuilt
    hours := Presence.wellFormed_of_builds hoursBuilt
    weekDays := Presence.wellFormed_of_builds weekDaysBuilt
    monthDays := Presence.wellFormed_of_builds monthDaysBuilt
    monthlyOccurrences := Presence.wellFormed_of_builds occurrencesBuilt }

theorem Recurrence.wellFormed_of_read {value : Value} {recurrence : Recurrence}
    (reads : Recurrence.read value = .ok recurrence) :
    recurrence.schedule.WellFormed := by
  obtain ⟨entries, -, rest⟩ := eq_ok_of_bind_eq_ok reads
  obtain ⟨_, -, rest⟩ := eq_ok_of_bind_eq_ok rest
  split at rest
  · obtain ⟨schedule, scheduleRead, same⟩ := eq_ok_of_bind_eq_ok rest
    obtain rfl := Except.ok.inj same
    exact Schedule.wellFormed_of_builds
      (Form.builds_of_ofEntries scheduleRead)
  · cases rest

/-- Whether the action has no body that is empty. -/
def WebAction.HasNoEmptyBody (action : WebAction) : Prop :=
  action.body ≠ some ""

theorem WebAction.hasNoEmptyBody_of_read {surplus : Surplus} {value : Value}
    {action : WebAction} (reads : WebAction.read surplus value = .ok action) :
    action.HasNoEmptyBody := by
  obtain ⟨block, -, converted⟩ := eq_ok_of_bind_eq_ok reads
  have filtered : (block.body.filter fun body => !body.isEmpty) ≠ some "" := by
    intro equal
    have nonempty := (Option.filter_eq_some_iff.mp equal).2
    simp at nonempty
  simp only [ofBlock] at converted
  split at converted
  · obtain rfl := Except.ok.inj converted
    exact filtered
  · obtain rfl := Except.ok.inj converted
    exact filtered
  · cases converted

/-- The action without its body when that is empty. -/
def WebAction.withoutEmptyBody (action : WebAction) : WebAction :=
  { action with body := action.body.filter fun body => !body.isEmpty }

theorem WebAction.withoutEmptyBody_eq_self_iff {action : WebAction} :
    action.withoutEmptyBody = action ↔ action.HasNoEmptyBody := by
  obtain ⟨url, method, body, headers, credentials⟩ := action
  cases body <;> simp [withoutEmptyBody, HasNoEmptyBody, Option.filter]

/-- Whether no action of the job has a body that is empty. -/
structure Job.HasNoEmptyBody (job : Job) : Prop where
  action : ∀ action ∈ job.action, action.HasNoEmptyBody
  errorAction : ∀ action ∈ job.errorAction, action.HasNoEmptyBody

/-- The job without the bodies that are empty. -/
def Job.withoutEmptyBodies (job : Job) : Job :=
  { job with
    action := job.action.map WebAction.withoutEmptyBody
    errorAction := job.errorAction.map WebAction.withoutEmptyBody }

theorem Job.withoutEmptyBodies_eq_self_iff {job : Job} :
    job.withoutEmptyBodies = job ↔ job.HasNoEmptyBody := by
  obtain ⟨name, resourceGroup, collection, action?, errorAction?, retry,
    recurrence, startTime, state⟩ := job
  have kept (part? : Option WebAction) :
      part?.map WebAction.withoutEmptyBody = part? ↔
        ∀ action ∈ part?, action.HasNoEmptyBody := by
    cases part? <;> simp [WebAction.withoutEmptyBody_eq_self_iff]
  simp only [withoutEmptyBodies, mk.injEq, true_and, and_true, kept]
  exact ⟨fun both => ⟨both.1, both.2⟩,
    fun bodies => ⟨bodies.action, bodies.errorAction⟩⟩

/-- What reading makes sure of. -/
structure Job.IsRead (job : Job) : Prop where
  wellFormed : job.WellFormed
  action : ∀ action ∈ job.action, action.HasNoEmptyBody
  errorAction : ∀ action ∈ job.errorAction, action.HasNoEmptyBody

namespace Job

theorem IsRead.hasNoEmptyBody {job : Job} (isRead : job.IsRead) :
    job.HasNoEmptyBody :=
  ⟨isRead.action, isRead.errorAction⟩

theorem isRead_of_builds {surplus : Surplus} {job : Job}
    (builds : (Job.form surplus).Builds job) : job.IsRead := by
  obtain ⟨_, state, rest₁, -, rfl⟩ := builds.of_seq
  obtain ⟨_, startTime, rest₂, -, rfl⟩ := rest₁.of_seq
  obtain ⟨_, recurrence, rest₃, recurrenceBuilt, rfl⟩ := rest₂.of_seq
  obtain ⟨_, retry, rest₄, -, rfl⟩ := rest₃.of_seq
  obtain ⟨_, errorAction, rest₅, errorActionBuilt, rfl⟩ := rest₄.of_seq
  obtain ⟨_, action, rest₆, actionBuilt, rfl⟩ := rest₅.of_seq
  obtain ⟨_, collection, rest₇, -, rfl⟩ := rest₆.of_seq
  obtain ⟨_, resourceGroup, rest₈, -, rfl⟩ := rest₇.of_seq
  obtain ⟨name, -, rfl⟩ := rest₈.of_map
  refine ⟨?_, ?_, ?_⟩
  · rintro given rfl
    obtain ⟨value, reads⟩ := recurrenceBuilt.of_optional
    exact Recurrence.wellFormed_of_read reads
  · rintro given rfl
    obtain ⟨value, reads⟩ := actionBuilt.of_optional
    exact WebAction.hasNoEmptyBody_of_read reads
  · rintro given rfl
    obtain ⟨value, reads⟩ := errorActionBuilt.of_optional
    exact WebAction.hasNoEmptyBody_of_read reads

theorem isRead_of_ofFile {text : String} {job : Job}
    (reads : Job.ofFile text = .ok job) : job.IsRead := by
  unfold ofFile Toml.read at reads
  split at reads
  · exact isRead_of_builds (Form.builds_of_readWith reads)
  · cases reads

end Job

end ScheduledJobs
