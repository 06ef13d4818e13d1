import Mathlib.Data.List.Sort
import ScheduledJobs.Job.Schedule
import ScheduledJobs.Proofs.IdentitySet

/-!
# Sets and the order of their items

The order of the items of a list counts for nothing when no two of them have
one identity.
-/

namespace ScheduledJobs.IdentitySet

variable {α : Type} [Identified α]

theorem eq_of_mem_iff {first second : IdentitySet α}
    (same : ∀ item, item ∈ first.members ↔ item ∈ second.members) :
    first = second := by
  have : Std.Irrefl fun earlier later : α =>
      identity earlier < identity later :=
    ⟨fun _ => UInt64.lt_irrefl _⟩
  have : Std.Antisymm fun earlier later : α =>
      identity earlier < identity later :=
    ⟨fun _ _ less more => absurd more (UInt64.lt_asymm less)⟩
  exact ext (first.ascending.eq_of_mem_iff second.ascending same)

theorem pairwise_identities (set : IdentitySet α) :
    set.identities.Pairwise (· < ·) :=
  List.pairwise_map.mpr set.ascending

theorem beq_iff_mem_identities {first second : IdentitySet α} :
    (first == second) = true ↔
      ∀ key, key ∈ first.identities ↔ key ∈ second.identities := by
  rw [beq_iff]
  constructor
  · intro same key
    rw [same]
  · exact first.pairwise_identities.eq_of_mem_iff second.pairwise_identities

theorem find?_items_eq_some_iff {items : List α} {key : UInt64} {item : α} :
    items.find? (fun item => identity item == key) = some item ↔
      identity item = key ∧ IsFirst item items := by
  rw [List.find?_eq_some_iff_append, beq_iff_eq]
  constructor
  · rintro ⟨rfl, before, after, divided, different⟩
    exact ⟨rfl, before, after, divided, by simpa using different⟩
  · rintro ⟨rfl, before, after, divided, different⟩
    exact ⟨rfl, before, after, divided, by simpa using different⟩

theorem isFirst_members_iff (set : IdentitySet α) {member : α} :
    IsFirst member set.members ↔ member ∈ set.members := by
  rw [← mem_ofList_iff, ofList_members]

theorem find?_members_ofList (items : List α) (key : UInt64) :
    (ofList items).members.find? (fun member => identity member == key) =
      items.find? fun item => identity item == key := by
  ext item
  rw [find?_items_eq_some_iff, find?_items_eq_some_iff, isFirst_members_iff,
    mem_ofList_iff]

theorem contains_eq_false_iff {set : IdentitySet α} {item : α} :
    set.contains item = false ↔
      ∀ member ∈ set.members, identity member ≠ identity item := by
  simp [contains]

theorem insertNew_fst_eq_true_iff {set : IdentitySet α} {item : α} :
    (set.insertNew item).1 = true ↔
      ∀ member ∈ set.members, identity member ≠ identity item := by
  rw [← contains_eq_false_iff, insertNew, Bool.not_eq_true']

theorem insertNew_snd_of_not_new {set : IdentitySet α} {item : α}
    (known : (set.insertNew item).1 = false) :
    (set.insertNew item).2 = set := by
  have present : ¬∀ member ∈ set.members,
      identity member ≠ identity item := by
    rw [← insertNew_fst_eq_true_iff, known]
    decide
  apply eq_of_mem_iff
  intro found
  have inserted : found ∈ (set.insert item).members ↔ found ∈ set.members ∨
      found = item ∧ ∀ member ∈ set.members,
        identity member ≠ identity item :=
    mem_placeMember_iff set.ascending
  exact inserted.trans (or_iff_left fun new => present new.2)

theorem insert_of_mem {set : IdentitySet α} {member item : α}
    (isMember : member ∈ set.members)
    (same : identity member = identity item) : set.insert item = set := by
  apply insertNew_snd_of_not_new
  rw [← Bool.not_eq_true, insertNew_fst_eq_true_iff]
  exact fun different => different member isMember same

/-- An item counts for nothing when an earlier one has its identity. -/
theorem ofList_append_cons_of_mem {before : List α} {kept item : α}
    (isEarlier : kept ∈ before) (same : identity kept = identity item)
    (after : List α) :
    ofList (before ++ item :: after) = ofList (before ++ after) := by
  obtain ⟨first, isFirst, sameFirst⟩ := exists_isFirst_of_mem isEarlier
  have inserted : (ofList before).insert item = ofList before :=
    insert_of_mem (mem_ofList_iff.mpr isFirst) (sameFirst.trans same)
  rw [ofList, ofList, List.foldl_append, List.foldl_append, List.foldl_cons]
  exact congrArg (after.foldl insert) inserted

/-- Whether no two items of the list have one identity. -/
def AreDistinct (items : List α) : Prop :=
  items.Pairwise fun earlier later => identity earlier ≠ identity later

instance (items : List α) : Decidable (AreDistinct items) :=
  inferInstanceAs (Decidable (List.Pairwise _ _))

theorem AreDistinct.isFirst_iff {items : List α} (distinct : AreDistinct items)
    {item : α} : IsFirst item items ↔ item ∈ items := by
  constructor
  · exact IsFirst.mem
  · intro member
    obtain ⟨before, after, rfl⟩ := List.append_of_mem member
    refine ⟨before, after, rfl, fun earlier isEarlier => ?_⟩
    exact (List.pairwise_append.mp distinct).2.2 earlier isEarlier item
      List.mem_cons_self

theorem AreDistinct.perm {items others : List α}
    (distinct : AreDistinct items) (perm : items.Perm others) :
    AreDistinct others :=
  perm.pairwise distinct fun different same => different same.symm

/-- The order of items with different identities does not count. -/
theorem ofList_eq_of_perm {items others : List α}
    (distinct : AreDistinct items) (perm : items.Perm others) :
    ofList items = ofList others := by
  apply eq_of_mem_iff
  intro item
  rw [mem_ofList_iff, mem_ofList_iff, distinct.isFirst_iff,
    (distinct.perm perm).isFirst_iff, perm.mem_iff]

end ScheduledJobs.IdentitySet

namespace ScheduledJobs

/-- The identity of a number is the number in 64 bits, read without a sign. -/
theorem toNat_identity_int32 (number : Int32) :
    ((identity number).toNat : Int) =
      if 0 ≤ number.toInt then number.toInt
      else number.toInt + UInt64.size := by
  have wide : number.toInt64.toBitVec.toInt = number.toInt := by
    rw [Int64.toInt_toBitVec, Int32.toInt_toInt64]
  have octets : (identity number).toNat = number.toInt64.toBitVec.toNat := rfl
  have bound := number.toInt64.toBitVec.isLt
  rw [BitVec.toInt_eq_toNat_cond] at wide
  rw [octets, UInt64.size]
  split at wide <;> split <;> omega

/-- Numbers are ordered by their identities with the negative ones at the
end. -/
theorem identity_int32_lt_iff {first second : Int32} :
    identity first < identity second ↔
      (0 ≤ first.toInt ∧ second.toInt < 0) ∨
        ((0 ≤ first.toInt ↔ 0 ≤ second.toInt) ∧
          first.toInt < second.toInt) := by
  have one := toNat_identity_int32 first
  have other := toNat_identity_int32 second
  have least := first.le_toInt
  have leastOther := second.le_toInt
  have greatest := first.toInt_lt
  have greatestOther := second.toInt_lt
  rw [UInt64.size] at one other
  rw [UInt64.lt_iff_toNat_lt]
  split at one <;> split at other <;> omega

theorem identity_int32_injective {first second : Int32}
    (same : identity first = identity second) : first = second := by
  have forward : ¬identity first < identity second := by
    rw [same]
    exact UInt64.lt_irrefl _
  have backward : ¬identity second < identity first := by
    rw [same]
    exact UInt64.lt_irrefl _
  rw [identity_int32_lt_iff] at forward backward
  exact Int32.toInt_inj.mp (by omega)

end ScheduledJobs
