import ScheduledJobs.Proofs.CommandLine.Records
import ScheduledJobs.Proofs.Job.Url

/-!
# Jobs are kept apart

A command for a job whose place is given without slashes touches what belongs
to the job, and nothing that belongs to another one.
-/

namespace ScheduledJobs.CommandLine.Session

open Store Text

/-- Whether the key is the one of the record of the job, or of its definition
in some subscription. -/
def BelongsTo (job : Job) (key : List UInt8) : Prop :=
  key = Record.key job.address ∨
    ∃ subscription, key = Emulator.key (job.idIn subscription)

variable {first second : Job}

theorem recordKey_ne (slashFree : first.IsSlashFree)
    (different : ¬first.SamePlace second) :
    Record.key first.address ≠ Record.key second.address := fun equal =>
  different
    (Job.samePlace_of_address_eq slashFree (Record.key_injective equal))

theorem emulatorKey_ne (slashFree : first.IsSlashFree)
    (different : ¬first.SamePlace second) {subscription : String}
    (isSegment : IsSegment subscription) (other : String) :
    Emulator.key (first.idIn subscription) ≠
      Emulator.key (second.idIn other) := fun equal =>
  different (Job.samePlace_of_idIn_eq
    (Emulator.key_injective (Job.isSlashFree_idIn slashFree isSegment) equal))

theorem not_belongsTo_recordKey (slashFree : first.IsSlashFree)
    (different : ¬first.SamePlace second) :
    ¬BelongsTo second (Record.key first.address) := by
  rintro (same | ⟨subscription, same⟩)
  · exact recordKey_ne slashFree different same
  · exact Emulator.key_ne_recordKey _ first.address same.symm

theorem not_belongsTo_emulatorKey (slashFree : first.IsSlashFree)
    (different : ¬first.SamePlace second) {subscription : String}
    (isSegment : IsSegment subscription) :
    ¬BelongsTo second (Emulator.key (first.idIn subscription)) := by
  rintro (same | ⟨other, same⟩)
  · exact Emulator.key_ne_recordKey _ second.address same
  · exact emulatorKey_ne slashFree different isSegment other same

/-- The id in the record of a job without slashes denotes the job. -/
theorem eq_idIn_of_isIdAt (accepted : first.IsAccepted)
    (slashFree : first.IsSlashFree) {id : String}
    (isId : IsIdAt first.address id) {found : JobId}
    (reads : JobId.ofText id = .ok found) :
    ∃ subscription, IsSegment subscription ∧
      found = first.idIn subscription := by
  obtain ⟨job, subscription, isSegment, sameAddress, rfl⟩ := isId
  have samePlace :=
    Job.samePlace_of_address_eq slashFree sameAddress.symm
  have segments := Job.hasSegments_idIn accepted slashFree isSegment
  rw [← samePlace.idIn_eq subscription, JobId.ofText_text segments] at reads
  exact ⟨subscription, isSegment, (Except.ok.inj reads).symm⟩

/-- A key that a command for a job without slashes touches does not belong to a
job at another place. -/
theorem not_belongsTo_of_touches {directory : Directory}
    (keeps : KeepsIds directory) (accepted : first.IsAccepted)
    (slashFree : first.IsSlashFree) (different : ¬first.SamePlace second)
    {subscription : String} (isSegment : IsSegment subscription)
    {key : List UInt8} (touches : Touches subscription first directory key) :
    ¬BelongsTo second key := by
  cases touches with
  | record => exact not_belongsTo_recordKey slashFree different
  | sent => exact not_belongsTo_emulatorKey slashFree different isSegment
  | @denoted found reads =>
      have segments := Job.hasSegments_idIn accepted slashFree isSegment
      rw [JobId.ofText_text segments] at reads
      obtain rfl := Except.ok.inj reads
      exact not_belongsTo_emulatorKey slashFree different isSegment
  | @recorded record found loaded reads =>
      have isId := keeps first.address record loaded
      obtain ⟨other, otherIsSegment, rfl⟩ :=
        eq_idIn_of_isIdAt accepted slashFree isId reads
      exact not_belongsTo_emulatorKey slashFree different otherIsSegment

/-- An accepted job whose place is given without slashes shares no key with a
job at another place.  Commands for it keep the record and the definitions of
the other job, and neither their answers nor the rest of the store depends on
them. -/
theorem perform_apart {limit : Nat} {directory : Directory}
    (reachable : Reachable limit directory) (valid : first.isValid = true)
    (slashFree : first.IsSlashFree) (different : ¬first.SamePlace second)
    {settings : Settings} (noSlash : '/' ∉ settings.subscription.toList)
    (root : String) (times : Times) :
    Record.key first.address ≠ Record.key second.address ∧
    (∀ subscription, IsSegment subscription →
      Emulator.key (first.idIn subscription) ≠
        Emulator.key (second.idIn subscription)) ∧
    ∀ change, ConfinedAt (fun key => ¬BelongsTo second key)
      ((ofEmulator settings root times).perform change first) directory := by
  have accepted := Job.isAccepted_of_isValid valid
  have isSegment := isSegment_subscriptionOf noSlash
  refine ⟨recordKey_ne slashFree different, ?_, ?_⟩
  · intro subscription isSegment
    exact emulatorKey_ne slashFree different isSegment subscription
  · intro change
    have confined := confinedAt_perform reachable.hasNoFolder settings root
      times change first
    apply confined.mono
    intro key touches
    exact not_belongsTo_of_touches reachable.keepsIds accepted slashFree
      different isSegment touches

/-- Commands for a job leave one with a longer resource group alone that has
been applied before. -/
theorem perform_apart_visit :
    Record.key (Job.visit "group" "daily" "report").address ≠
      Record.key (Job.visit "group/east" "daily" "report").address ∧
    (∀ subscription, IsSegment subscription →
      Emulator.key ((Job.visit "group" "daily" "report").idIn subscription) ≠
        Emulator.key
          ((Job.visit "group/east" "daily" "report").idIn subscription)) ∧
    ∀ change, ConfinedAt
      (fun key => ¬BelongsTo (.visit "group/east" "daily" "report") key)
      ((ofEmulator .standard "/state" { now := .epoch }).perform change
        (.visit "group" "daily" "report"))
      ((ofEmulator .standard "/state" { now := .epoch }).perform .apply
        (.visit "group/east" "daily" "report") { nameLimit := 255 }).2 :=
  have noSlash : '/' ∉ Settings.standard.subscription.toList := by decide
  perform_apart
    (.perform noSlash "/state" { now := .epoch } .apply _ .fresh)
    (Job.isValid_visit (by decide) (by decide) (by decide))
    ⟨by decide, by decide, by decide⟩
    (fun same => absurd same.resourceGroup (by decide))
    noSlash "/state" { now := .epoch }

/-- Slashes let jobs at different places share the key of their records, or
that of their definitions. -/
theorem keys_collide :
    ((Job.visit "a" "b/c/d" "nn").isValid = true ∧
      (Job.visit "a/b/c" "d" "nn").isValid = true ∧
      Record.key (Job.visit "a" "b/c/d" "nn").address =
        Record.key (Job.visit "a/b/c" "d" "nn").address) ∧
    (Job.visit "a" "b/jobs/c1" "nn").isValid = true ∧
      (Job.visit "a" "b" "c1/jobs/nn").isValid = true ∧
      Emulator.key ((Job.visit "a" "b/jobs/c1" "nn").idIn "local") =
        Emulator.key ((Job.visit "a" "b" "c1/jobs/nn").idIn "local") := by
  refine ⟨⟨?_, ?_, ?_⟩, ?_, ?_, ?_⟩
  · exact Job.isValid_visit (by decide) (by decide) (by decide)
  · exact Job.isValid_visit (by decide) (by decide) (by decide)
  · exact congrArg Record.key (by decide)
  · exact Job.isValid_visit (by decide) (by decide) (by decide)
  · exact Job.isValid_visit (by decide) (by decide) (by decide)
  · exact congrArg (Store.namespaced "remote") (by decide)

end ScheduledJobs.CommandLine.Session
