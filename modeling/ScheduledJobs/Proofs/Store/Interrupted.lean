import ScheduledJobs.Proofs.Store.Contents

/-!
# Writes that are stopped

A write that is stopped on the way leaves every value as it was unless it has
been completed.
-/

namespace ScheduledJobs.Store

/-- Whether two directories hold the same but for temporary files, of which one
may have some that the other has not. -/
structure SameButTemporary (first second : Directory) : Prop where
  sameLimit : second.nameLimit = first.nameLimit
  others : ∀ name, (∀ key, name ≠ temporaryName key) →
    second.get? name = first.get? name
  folders : ∀ key, second.get? (temporaryName key) = some .folder ↔
    first.get? (temporaryName key) = some .folder

namespace SameButTemporary

variable {first second third : Directory}

theorem refl (directory : Directory) :
    SameButTemporary directory directory :=
  ⟨rfl, fun _ _ => rfl, fun _ => .rfl⟩

theorem trans (same : SameButTemporary first second)
    (next : SameButTemporary second third) : SameButTemporary first third where
  sameLimit := next.sameLimit.trans same.sameLimit
  others := fun name notTemporary =>
    (next.others name notTemporary).trans (same.others name notTemporary)
  folders := fun key => (next.folders key).trans (same.folders key)

theorem get?_fileName (same : SameButTemporary first second)
    (key : List UInt8) :
    second.get? (fileName key) = first.get? (fileName key) :=
  same.others _ fun other => fileName_ne_temporaryName key other

theorem admits (same : SameButTemporary first second) (name : String) :
    second.admits name = first.admits name := by
  rw [Directory.admits, same.sameLimit, Directory.admits]

theorem get?_eq (same : SameButTemporary first second) (key : List UInt8) :
    get? second key = get? first key := by
  simp only [get?, Directory.file?, same.admits, same.get?_fileName]

theorem obstacle?_temporaryName (same : SameButTemporary first second)
    (key : List UInt8) :
    second.obstacle? (temporaryName key) =
      first.obstacle? (temporaryName key) := by
  simp only [Directory.obstacle?, same.admits, same.folders]

theorem withFile (same : SameButTemporary first second) (name : String)
    (octets : List UInt8) :
    SameButTemporary (first.withFile name octets)
      (second.withFile name octets) where
  sameLimit := same.sameLimit
  others := fun other notTemporary => by
    simp only [Directory.get?_withFile, same.others other notTemporary]
  folders := fun key => by
    simp only [Directory.get?_withFile]
    split
    · exact .rfl
    · exact same.folders key

theorem erase (same : SameButTemporary first second) (name : String) :
    SameButTemporary (first.erase name) (second.erase name) where
  sameLimit := same.sameLimit
  others := fun other notTemporary => by
    simp only [Directory.get?_erase, same.others other notTemporary]
  folders := fun key => by
    simp only [Directory.get?_erase]
    split
    · exact .rfl
    · exact same.folders key

/-- A temporary file may be there or not, where no folder has its name. -/
theorem of_withFile {directory : Directory} {key : List UInt8}
    (noFolder : directory.get? (temporaryName key) ≠ some .folder)
    (octets : List UInt8) :
    SameButTemporary directory
      (directory.withFile (temporaryName key) octets) where
  sameLimit := rfl
  others := fun name notTemporary => by
    rw [Directory.get?_withFile, if_neg (notTemporary key)]
  folders := fun other => by
    rw [Directory.get?_withFile]
    split
    · next isSame => simpa [isSame] using noFolder
    · exact .rfl

theorem put (same : SameButTemporary first second) (key value : List UInt8) :
    (put second key value).1 = (put first key value).1 ∧
      SameButTemporary (put first key value).2 (put second key value).2 := by
  by_cases nonempty : key = []
  · rw [nonempty, put_nil, put_nil]
    exact ⟨rfl, same⟩
  have sameObstacle := same.obstacle?_temporaryName key
  cases obstacle : first.obstacle? (temporaryName key) with
  | some error =>
      rw [obstacle] at sameObstacle
      rw [put_of_obstacle nonempty obstacle,
        put_of_obstacle nonempty sameObstacle]
      exact ⟨rfl, same⟩
  | none =>
      rw [obstacle] at sameObstacle
      rw [put_of_no_obstacle nonempty obstacle,
        put_of_no_obstacle nonempty sameObstacle, same.get?_fileName]
      have sameFilled := (same.withFile (temporaryName key) []).withFile
        (temporaryName key) value
      split
      · exact ⟨rfl, sameFilled⟩
      · exact ⟨rfl, (sameFilled.erase _).withFile _ _⟩

theorem delete (same : SameButTemporary first second) (key : List UInt8) :
    (delete second key).1 = (delete first key).1 ∧
      SameButTemporary (delete first key).2 (delete second key).2 := by
  unfold Store.delete
  rw [same.get?_eq]
  split
  · exact ⟨rfl, same.erase _⟩
  · exact ⟨rfl, same⟩

theorem answer (same : SameButTemporary first second) (call : Call) :
    (answer call second).1 = (answer call first).1 ∧
      SameButTemporary (answer call first).2 (answer call second).2 := by
  cases call with
  | put key value =>
      obtain ⟨sameResult, sameNext⟩ := same.put key value
      exact ⟨congrArg Reply.stored sameResult, sameNext⟩
  | get key => exact ⟨congrArg Reply.found (same.get?_eq key), same⟩
  | delete key =>
      obtain ⟨sameResult, sameNext⟩ := same.delete key
      exact ⟨congrArg Reply.removed sameResult, sameNext⟩

/-- No calls can tell the directories apart. -/
theorem replies (same : SameButTemporary first second) (calls : List Call) :
    (History.ofInputs Store.answer calls second).1 =
      (History.ofInputs Store.answer calls first).1 :=
  (History.ofInputs_of_related SameButTemporary
    (fun call _ _ related => related.answer call) calls same).1

end SameButTemporary

/-- A put that fails changes temporary files at most. -/
theorem sameButTemporary_of_failed_put {directory next : Directory}
    {key value : List UInt8} {failure : Failure}
    (failed : put directory key value = (.error failure, next)) :
    SameButTemporary directory next := by
  by_cases nonempty : key = []
  · rw [nonempty, put_nil] at failed
    obtain rfl := congrArg Prod.snd failed
    exact .refl directory
  cases obstacle : directory.obstacle? (temporaryName key) with
  | some error =>
      rw [put_of_obstacle nonempty obstacle] at failed
      obtain rfl := congrArg Prod.snd failed
      exact .refl directory
  | none =>
      have noFolder := (Directory.obstacle?_eq_none_iff.mp obstacle).2
      rw [put_of_no_obstacle nonempty obstacle] at failed
      split at failed
      · obtain rfl := congrArg Prod.snd failed
        refine (SameButTemporary.of_withFile noFolder []).trans
          (.of_withFile ?_ value)
        simp [Directory.get?_withFile]
      · cases failed

/-- Whether a write of the value may leave the directory so when it is stopped:
some of the steps by which the value is written in pieces have been taken in
their order, or all of them. -/
def MayLeave (directory : Directory) (key value : List UInt8)
    (left : Directory) : Prop :=
  ∃ pieces taken, pieces.flatten = value ∧ taken <+: pieceSteps key pieces ∧
    (directory.steps taken).2 = left

/-- Whether a step changes the temporary file of a key alone. -/
def Prepares (key : List UInt8) (step : Directory.Step) : Prop :=
  step = .create (temporaryName key) ∨
    (∃ octets, step = .append (temporaryName key) octets) ∨
    step = .flush (temporaryName key)

theorem sameButTemporary_of_step {directory next : Directory}
    {key : List UInt8} {step : Directory.Step} (prepares : Prepares key step)
    (taken : directory.step step = .ok next) :
    SameButTemporary directory next := by
  rcases prepares with rfl | ⟨octets, rfl⟩ | rfl
  · simp only [Directory.step] at taken
    split at taken
    · cases taken
    · next noObstacle =>
        obtain rfl := Except.ok.inj taken
        exact .of_withFile (Directory.obstacle?_eq_none_iff.mp noObstacle).2 []
  · simp only [Directory.step] at taken
    split at taken
    · next isFile =>
        obtain rfl := Except.ok.inj taken
        refine .of_withFile ?_ _
        simp [Directory.get?_of_file? isFile]
    · cases taken
  · simp only [Directory.step] at taken
    split at taken
    · obtain rfl := Except.ok.inj taken
      exact .refl directory
    · cases taken

theorem sameButTemporary_of_steps {key : List UInt8}
    {taken : List Directory.Step}
    (prepare : ∀ step ∈ taken, Prepares key step) (directory : Directory) :
    SameButTemporary directory (directory.steps taken).2 := by
  induction taken generalizing directory with
  | nil => exact .refl directory
  | cons first others ih =>
      obtain ⟨isFirst, areOthers⟩ := List.forall_mem_cons.mp prepare
      simp only [Directory.steps]
      split
      · next next isTaken =>
          exact (sameButTemporary_of_step isFirst isTaken).trans
            (ih areOthers next)
      · exact .refl directory

/-- All steps but the last one concern the temporary file alone. -/
theorem prepares_or_eq_pieceSteps {key : List UInt8}
    {pieces : List (List UInt8)} {taken : List Directory.Step}
    (begun : taken <+: pieceSteps key pieces) :
    (∀ step ∈ taken, Prepares key step) ∨ taken = pieceSteps key pieces := by
  have divided : pieceSteps key pieces =
      (.create (temporaryName key) ::
        (pieces.map (.append (temporaryName key)) ++
          [.flush (temporaryName key)])) ++
        [.rename (temporaryName key) (fileName key)] := by
    simp [pieceSteps]
  rw [divided, List.prefix_concat_iff] at begun
  rcases begun with complete | begun
  · exact .inr (complete.trans divided.symm)
  · refine .inl fun step member => ?_
    have isOne := begun.subset member
    simp only [List.mem_cons, List.mem_append, List.mem_map, List.not_mem_nil,
      or_false] at isOne
    rcases isOne with isCreate | ⟨octets, -, isAppend⟩ | isFlush
    · exact .inl isCreate
    · exact .inr (.inl ⟨octets, isAppend.symm⟩)
    · exact .inr (.inr isFlush)

theorem steps_appends {directory : Directory} {key : List UInt8}
    (admitted : directory.admits (temporaryName key) = true)
    (pieces : List (List UInt8)) (begun : List UInt8)
    (others : List Directory.Step) :
    (directory.withFile (temporaryName key) begun).steps
        (pieces.map (.append (temporaryName key)) ++ others) =
      (directory.withFile (temporaryName key)
        (begun ++ pieces.flatten)).steps others := by
  induction pieces generalizing begun with
  | nil => simp
  | cons piece pieces ih =>
      have isFile := directory.file?_withFile_self admitted begun
      have append : (directory.withFile (temporaryName key) begun).step
          (.append (temporaryName key) piece) =
            .ok (directory.withFile (temporaryName key) (begun ++ piece)) := by
        simp only [Directory.step, isFile, Directory.withFile_withFile]
      rw [List.map_cons, List.cons_append, Directory.steps_cons_of_ok append,
        ih, List.flatten_cons, List.append_assoc]

theorem steps_pieceSteps (directory : Directory) (key : List UInt8)
    (pieces : List (List UInt8)) :
    directory.steps (pieceSteps key pieces) =
      directory.steps (writeSteps key pieces.flatten) := by
  rw [writeSteps]
  cases obstacle : directory.obstacle? (temporaryName key) with
  | some error =>
      have create : directory.step (.create (temporaryName key)) =
          .error error := by
        simp only [Directory.step, obstacle]
      simp only [pieceSteps, Directory.steps, create]
  | none =>
      have create : directory.step (.create (temporaryName key)) =
          .ok (directory.withFile (temporaryName key) []) := by
        simp only [Directory.step, obstacle]
      have admitted := (Directory.obstacle?_eq_none_iff.mp obstacle).1
      rw [pieceSteps, pieceSteps, Directory.steps_cons_of_ok create,
        Directory.steps_cons_of_ok create, steps_appends admitted,
        steps_appends admitted, List.flatten_singleton]

theorem put_snd {key : List UInt8} (nonempty : key ≠ [])
    (directory : Directory) (value : List UInt8) :
    (put directory key value).2 =
      (directory.steps (writeSteps key value)).2 := by
  have notEmpty : key.isEmpty = false := by simpa using nonempty
  rw [put, notEmpty, if_neg Bool.false_ne_true]
  split <;> next ended => rw [ended]

/-- A write that is stopped on the way differs from one that has not been begun
in temporary files at most, and one that is stopped at the end is complete. -/
theorem MayLeave.cases {directory left : Directory} {key value : List UInt8}
    (nonempty : key ≠ []) (stopped : MayLeave directory key value left) :
    SameButTemporary directory left ∨
      put directory key value = (.ok (), left) := by
  obtain ⟨pieces, taken, rfl, begun, rfl⟩ := stopped
  rcases prepares_or_eq_pieceSteps begun with prepare | rfl
  · exact .inl (sameButTemporary_of_steps prepare directory)
  · rw [steps_pieceSteps, ← put_snd nonempty]
    rcases ended : put directory key pieces.flatten with ⟨result, next⟩
    cases result with
    | error failure => exact .inl (sameButTemporary_of_failed_put ended)
    | ok => exact .inr rfl

/-- A write that is stopped at any point leaves the values under all other keys
as they were.  The one under its own key is the former one, and every call is
answered as if the write had not been begun; or it is the new one in full, and
the write is complete. -/
theorem values_of_mayLeave {directory left : Directory}
    {key value : List UInt8} (nonempty : key ≠ [])
    (stopped : MayLeave directory key value left) :
    (∀ other, other ≠ key → get? left other = get? directory other) ∧
      ((get? left key = get? directory key ∧
          ∀ calls, (History.ofInputs answer calls left).1 =
            (History.ofInputs answer calls directory).1) ∨
        (get? left key = some value ∧
          put directory key value = (.ok (), left))) := by
  rcases stopped.cases nonempty with same | complete
  · exact ⟨fun other _ => same.get?_eq other,
      .inl ⟨same.get?_eq key, same.replies⟩⟩
  · obtain ⟨fits, rfl⟩ := eq_written_of_put complete
    exact ⟨fun other different => get?_written_of_ne different directory value,
      .inr ⟨get?_written_self fits value, complete⟩⟩

/-- A write that is to replace a value and is stopped when one of two octets
has been written. -/
theorem values_of_mayLeave_of_half :
    let directory := written ∅ [97] [9]
    let left := (directory.steps [.create (temporaryName [97]),
      .append (temporaryName [97]) [1]]).2
    MayLeave directory [97] [1, 2] left ∧
      left.get? "61.tmp" = some (.file [1]) ∧
      get? left [98] = get? directory [98] ∧ get? left [97] = some [9] ∧
      ∀ calls, (History.ofInputs answer calls left).1 =
        (History.ofInputs answer calls directory).1 := by
  intro directory left
  have stopped : MayLeave directory [97] [1, 2] left :=
    ⟨[[1], [2]], _, rfl, ⟨_, rfl⟩, rfl⟩
  have former : get? left [97] = some [9] := by decide +kernel
  obtain ⟨others, notBegun | complete⟩ := values_of_mayLeave (by decide) stopped
  · exact ⟨stopped, by decide +kernel, others [98] (by decide), former,
      notBegun.2⟩
  · exact absurd (former.symm.trans complete.1) (by decide)

end ScheduledJobs.Store
