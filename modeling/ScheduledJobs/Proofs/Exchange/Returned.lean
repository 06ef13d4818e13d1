import ScheduledJobs.Exchange.Incoming
import ScheduledJobs.Proofs.Job.Reading
import ScheduledJobs.Proofs.Service.Emulator

/-! # What a definition says can be read back -/

namespace ScheduledJobs

namespace Definition

theorem wellFormed_collected {α β : Type} [Identified β]
    (convert : α → Option β) (items? : Option (List α)) :
    (collected convert items?).WellFormed := by
  cases items? with
  | none => exact nofun
  | some items => exact Presence.wellFormed_ofOption (some _)

theorem Timetable.wellFormed_toSchedule (timetable : Timetable) :
    timetable.toSchedule.WellFormed where
  minutes := wellFormed_collected some _
  hours := wellFormed_collected some _
  weekDays := wellFormed_collected (fun name => some (DayName.mk name)) _
  monthDays := wellFormed_collected some _
  monthlyOccurrences := wellFormed_collected NumberedDay.toOccurrence? _

theorem Repetition.wellFormed_toRecurrence (repetition : Repetition) :
    repetition.toRecurrence.schedule.WellFormed := by
  obtain ⟨frequency, interval, count, endTime, timetable?⟩ := repetition
  cases timetable? with
  | none => constructor <;> exact nofun
  | some timetable => exact timetable.wellFormed_toSchedule

theorem wellFormed_toJob (id : JobId) (definition : Definition) :
    (definition.toJob id).WellFormed := by
  intro recurrence isGiven
  unfold toJob at isGiven
  split at isGiven
  · cases isGiven
  · obtain ⟨repetition, -, rfl⟩ := Option.map_eq_some_iff.mp isGiven
    exact repetition.wellFormed_toRecurrence

/-- Whether no request of the definition has a body that is empty. -/
def HasNoEmptyBody (definition : Definition) : Prop :=
  ∀ request ∈ definition.requests, request.body ≠ some ""

theorem exists_request_of_toJob {id : JobId} {definition : Definition}
    {action : WebAction}
    (said : action ∈ (definition.toJob id).action ∨
      action ∈ (definition.toJob id).errorAction) :
    ∃ request ∈ definition.requests, request.toWebAction = action := by
  obtain ⟨given, name, resourceType, _ | properties⟩ := definition
  · rcases said with isAction | isAction <;> cases isAction
  · rcases said with isAction | isAction
    · obtain ⟨main, isMain, taken⟩ := Option.bind_eq_some_iff.mp isAction
      unfold Action.toWebAction? at taken
      split at taken
      · obtain ⟨request, isRequest, same⟩ := Option.map_eq_some_iff.mp taken
        exact ⟨request, by simp [requests, isMain, isRequest], same⟩
      · cases taken
    · obtain ⟨main, isMain, taken⟩ := Option.bind_eq_some_iff.mp isAction
      unfold Action.toErrorAction? at taken
      split at taken
      · obtain ⟨request, isRequest, same⟩ := Option.map_eq_some_iff.mp taken
        exact ⟨request, by simp [requests, isMain, isRequest], same⟩
      · cases taken

theorem isRead_toJob {definition : Definition}
    (hasNoEmptyBody : definition.HasNoEmptyBody) (id : JobId) :
    (definition.toJob id).IsRead := by
  have bodies {action : WebAction}
      (said : action ∈ (definition.toJob id).action ∨
        action ∈ (definition.toJob id).errorAction) :
      action.HasNoEmptyBody := by
    obtain ⟨request, isRequest, rfl⟩ := exists_request_of_toJob said
    exact hasNoEmptyBody request isRequest
  exact {
    wellFormed := wellFormed_toJob id definition
    action := fun action isAction => bodies (.inl isAction)
    errorAction := fun action isAction => bodies (.inr isAction) }

end Definition

theorem Job.hasNoEmptyBody_toDefinition (environment : Environment)
    (now : Instant) (job : Job) :
    (job.toDefinition environment now).HasNoEmptyBody := by
  intro request isSent empty
  rw [requests_toDefinition] at isSent
  obtain ⟨action, -, rfl⟩ := List.mem_map.mp isSent
  have nonempty := (Option.filter_eq_some_iff.mp empty).2
  simp at nonempty

theorem Emulator.hasNoEmptyBody_storedAt {definition : Definition}
    (hasNoEmptyBody : definition.HasNoEmptyBody) (id : JobId)
    (now : Instant) : (storedAt id now definition).HasNoEmptyBody := by
  intro request isStored
  rw [storedAt, requests_stored] at isStored
  obtain ⟨sent, isSent, rfl⟩ := List.mem_map.mp isStored
  exact hasNoEmptyBody sent isSent

end ScheduledJobs
