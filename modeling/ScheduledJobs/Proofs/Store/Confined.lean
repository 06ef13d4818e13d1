import ScheduledJobs.Proofs.Store.Basic

/-!
# Operations with keys of their own

An operation is confined to keys when it changes no value under another one and
does not depend on any.
-/

namespace ScheduledJobs.Store

open Document

/-- Whether two stores without folders admit the same names and hold the same
under the keys. -/
structure AgreeOn (keys : List UInt8 → Prop) (first second : Directory) :
    Prop where
  firstHasNoFolder : first.HasNoFolder
  secondHasNoFolder : second.HasNoFolder
  sameLimit : second.nameLimit = first.nameLimit
  sameValues : ∀ key, keys key → get? second key = get? first key

theorem AgreeOn.refl {directory : Directory}
    (noFolder : directory.HasNoFolder) (keys : List UInt8 → Prop) :
    AgreeOn keys directory directory :=
  ⟨noFolder, noFolder, rfl, fun _ _ => rfl⟩

/-- Whether an operation on the store touches values under its own keys only.
It keeps all other ones.  In any store that agrees with this one under the own
keys, and perhaps under further ones, it has the same answer, and the stores
agree under the same keys afterwards. -/
structure ConfinedAt {α : Type} (own : List UInt8 → Prop)
    (operation : Directory → α × Directory) (directory : Directory) :
    Prop where
  keeps : ∀ key, ¬own key →
    get? (operation directory).2 key = get? directory key
  agrees : ∀ visible other, (∀ key, own key → visible key) →
    AgreeOn visible directory other →
      (operation other).1 = (operation directory).1 ∧
      AgreeOn visible (operation directory).2 (operation other).2

/-- Two operations in sequence, of which the second depends on the answer of
the first. -/
def andThen {α β : Type} (first : Directory → α × Directory)
    (next : α → Directory → β × Directory) (directory : Directory) :
    β × Directory :=
  next (first directory).1 (first directory).2

variable {α β : Type} {own : List UInt8 → Prop} {directory : Directory}

namespace ConfinedAt

theorem hasNoFolder {operation : Directory → α × Directory}
    (confined : ConfinedAt own operation directory)
    (noFolder : directory.HasNoFolder) :
    (operation directory).2.HasNoFolder :=
  (confined.agrees own directory (fun _ owns => owns)
    (.refl noFolder own)).2.firstHasNoFolder

theorem mono {more : List UInt8 → Prop}
    {operation : Directory → α × Directory}
    (confined : ConfinedAt own operation directory)
    (included : ∀ key, own key → more key) :
    ConfinedAt more operation directory where
  keeps := fun key notMore =>
    confined.keeps key (mt (included key) notMore)
  agrees := fun visible other shown =>
    confined.agrees visible other fun key owns =>
      shown key (included key owns)

theorem pure (answer : α) :
    ConfinedAt own (fun directory => (answer, directory)) directory where
  keeps := fun _ _ => rfl
  agrees := fun _ _ _ agree => ⟨rfl, agree⟩

theorem andThen {first : Directory → α × Directory}
    {next : α → Directory → β × Directory} (noFolder : directory.HasNoFolder)
    (firstConfined : ConfinedAt own first directory)
    (nextConfined : (first directory).2.HasNoFolder →
      ConfinedAt own (next (first directory).1) (first directory).2) :
    ConfinedAt own (andThen first next) directory := by
  have rest := nextConfined (firstConfined.hasNoFolder noFolder)
  constructor
  · intro key foreign
    calc
      get? (Store.andThen first next directory).2 key =
          get? (first directory).2 key := rest.keeps key foreign
      _ = get? directory key := firstConfined.keeps key foreign
  · intro visible other shown agree
    obtain ⟨sameAnswer, agreeAfter⟩ :=
      firstConfined.agrees visible other shown agree
    have after := rest.agrees visible (first other).2 shown agreeAfter
    unfold Store.andThen
    rwa [sameAnswer]

theorem map {operation : Directory → α × Directory}
    (confined : ConfinedAt own operation directory)
    (noFolder : directory.HasNoFolder) (answer : α → β) :
    ConfinedAt own (Store.andThen operation fun result directory =>
      (answer result, directory)) directory :=
  confined.andThen noFolder fun _ => .pure _

end ConfinedAt

theorem confinedAt_load {key : List UInt8} (owns : own key)
    (read : Reader α) :
    ConfinedAt own (fun directory => (load read directory key, directory))
      directory where
  keeps := fun _ _ => rfl
  agrees := fun visible other shown agree =>
    ⟨by simp only [load, agree.sameValues key (shown key owns)], agree⟩

theorem AgreeOn.written {keys : List UInt8 → Prop} {first second : Directory}
    (agree : AgreeOn keys first second) {key : List UInt8}
    (fits : Fits first key) (value : List UInt8) :
    AgreeOn keys (written first key value) (written second key value) where
  firstHasNoFolder := hasNoFolder_written agree.firstHasNoFolder key value
  secondHasNoFolder := hasNoFolder_written agree.secondHasNoFolder key value
  sameLimit := agree.sameLimit
  sameValues := by
    intro other isKey
    by_cases same : other = key
    · rw [same, get?_written_self fits,
        get?_written_self (fits.congr agree.sameLimit)]
    · rw [get?_written_of_ne same, get?_written_of_ne same,
        agree.sameValues other isKey]

theorem confinedAt_put (noFolder : directory.HasNoFolder) {key : List UInt8}
    (owns : own key) (value : List UInt8) :
    ConfinedAt own (fun directory => put directory key value) directory := by
  constructor
  · intro other foreign
    have different : other ≠ key := fun same => foreign (same ▸ owns)
    exact get?_put_of_ne noFolder different value
  · intro visible other _ agree
    by_cases empty : key = []
    · rw [empty, put_nil, put_nil]
      exact ⟨rfl, agree⟩
    · have sameFits : Fits other key ↔ Fits directory key := by
        rw [Fits, Fits, agree.sameLimit]
      by_cases fits : Fits directory key
      · rw [put_of_fits noFolder empty fits,
          put_of_fits agree.secondHasNoFolder empty (sameFits.mpr fits)]
        exact ⟨rfl, agree.written fits value⟩
      · rw [put_of_not_fits empty fits,
          put_of_not_fits empty (mt sameFits.mp fits)]
        exact ⟨rfl, agree⟩

theorem confinedAt_delete {key : List UInt8} (owns : own key) :
    ConfinedAt own (fun directory => delete directory key) directory := by
  constructor
  · intro other foreign
    have different : other ≠ key := fun same => foreign (same ▸ owns)
    exact get?_delete_of_ne different directory
  · intro visible other shown agree
    have same := agree.sameValues key (shown key owns)
    refine ⟨?_, ?_, ?_, ?_, ?_⟩
    · unfold delete
      rw [same]
      split <;> rfl
    · exact hasNoFolder_delete agree.firstHasNoFolder key
    · exact hasNoFolder_delete agree.secondHasNoFolder key
    · rw [nameLimit_delete, nameLimit_delete, agree.sameLimit]
    · intro candidate isVisible
      by_cases isKey : candidate = key
      · rw [isKey, get?_delete_self, get?_delete_self]
      · rw [get?_delete_of_ne isKey, get?_delete_of_ne isKey,
          agree.sameValues candidate isVisible]

end ScheduledJobs.Store
