import ScheduledJobs.Job.Basic
import ScheduledJobs.Proofs.IdentitySet

/-!
# Equality of jobs

Jobs are equal up to the members of the sets in their schedules, of which only
the identities count.
-/

namespace ScheduledJobs

@[simp] theorem IdentitySet.beq_self {α : Type} [Identified α]
    (set : IdentitySet α) : (set == set) = true :=
  IdentitySet.beq_iff.mpr rfl

namespace Presence

variable {α : Type} [Identified α]

@[simp] theorem beq_self (presence : Presence (IdentitySet α)) :
    (presence == presence) = true := by
  cases presence with
  | unset => rfl
  | empty => rfl
  | value set => exact IdentitySet.beq_self set

theorem value_beq_value {first second : IdentitySet α} :
    ((Presence.value first == Presence.value second) = true) ↔
      first.identities = second.identities :=
  IdentitySet.beq_iff

theorem provided_beq_provided {first second : IdentitySet α}
    (same : first.identities = second.identities) :
    (provided first == provided second) = true := by
  have isEmpty : first.isEmpty = second.isEmpty := by
    have lengths := congrArg List.length same
    simp only [IdentitySet.identities, List.length_map] at lengths
    rw [Bool.eq_iff_iff, IdentitySet.isEmpty, IdentitySet.isEmpty,
      List.isEmpty_iff_length_eq_zero, List.isEmpty_iff_length_eq_zero,
      lengths]
  unfold provided
  rw [isEmpty]
  split
  · rfl
  · exact value_beq_value.mpr same

end Presence

theorem Schedule.beq_iff {first second : Schedule} :
    (first == second) = true ↔
      (first.minutes == second.minutes) = true ∧
      (first.hours == second.hours) = true ∧
      (first.weekDays == second.weekDays) = true ∧
      (first.monthDays == second.monthDays) = true ∧
      (first.monthlyOccurrences == second.monthlyOccurrences) = true := by
  obtain ⟨minutes, hours, weekDays, monthDays, occurrences⟩ := first
  obtain ⟨_, _, _, _, _⟩ := second
  change instBEqSchedule.beq _ _ = true ↔ _
  simp [instBEqSchedule.beq]

theorem Recurrence.beq_of_schedule {first second : Recurrence}
    (others : { first with schedule := {} } = { second with schedule := {} })
    (schedule : (first.schedule == second.schedule) = true) :
    (first == second) = true := by
  obtain ⟨frequency, interval, count, endTime, firstSchedule⟩ := first
  obtain ⟨_, _, _, _, secondSchedule⟩ := second
  simp only [Recurrence.mk.injEq, and_true] at others
  obtain ⟨rfl, rfl, rfl, rfl⟩ := others
  change instBEqRecurrence.beq _ _ = true
  simpa [instBEqRecurrence.beq] using schedule

theorem Job.beq_of_recurrence {first second : Job}
    (others : { first with recurrence := none } =
      { second with recurrence := none })
    (recurrence : (first.recurrence == second.recurrence) = true) :
    (first == second) = true := by
  obtain ⟨name, resourceGroup, collection, action, errorAction, retry,
    firstRecurrence, startTime, state⟩ := first
  obtain ⟨_, _, _, _, _, _, secondRecurrence, _, _⟩ := second
  simp only [Job.mk.injEq, true_and] at others
  obtain ⟨rfl, rfl, rfl, rfl, rfl, rfl, rfl, rfl⟩ := others
  change instBEqJob.beq _ _ = true
  simpa [instBEqJob.beq] using recurrence

end ScheduledJobs
