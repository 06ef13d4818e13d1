import Mathlib.Data.List.Dedup
import ScheduledJobs.Proofs.IdentitySet.Order

/-!
# Sets of items with keys

Where two items have one identity exactly when they have one key, a set holds
every key of its list once.
-/

namespace ScheduledJobs.IdentitySet

variable {α κ : Type} [Identified α]

theorem mem_identities_ofList_iff {items : List α} {number : UInt64} :
    number ∈ (ofList items).identities ↔ number ∈ items.map identity := by
  constructor
  · intro held
    obtain ⟨item, isMember, rfl⟩ := List.mem_map.mp held
    exact List.mem_map_of_mem (mem_ofList_iff.mp isMember).mem
  · intro given
    obtain ⟨item, isGiven, rfl⟩ := List.mem_map.mp given
    obtain ⟨kept, isFirst, same⟩ := exists_isFirst_of_mem isGiven
    exact List.mem_map.mpr ⟨kept, mem_ofList_iff.mpr isFirst, same⟩

/-- Whether items that satisfy the condition have one identity exactly when
they have one key. -/
def IsKeyed (condition : α → Prop) (key : α → κ) : Prop :=
  ∀ first second, condition first → condition second →
    (identity first = identity second ↔ key first = key second)

namespace IsKeyed

/-- Keys tell items apart when items with one key have one identity, and every
item has the key of one of those listed, which have different identities. -/
theorem of_representatives {condition : α → Prop} {key : α → κ}
    (respects : ∀ first second, condition first → condition second →
      key first = key second → identity first = identity second)
    {listed : List α} (distinct : (listed.map identity).Nodup)
    (represented : ∀ item, condition item →
      ∃ usual ∈ listed, condition usual ∧ key usual = key item) :
    IsKeyed condition key := by
  intro first second isFirst isSecond
  refine ⟨fun same => ?_, respects first second isFirst isSecond⟩
  obtain ⟨usual, isListed, isUsual, sameKey⟩ := represented first isFirst
  obtain ⟨other, otherListed, isOther, otherKey⟩ := represented second isSecond
  have equal : usual = other := by
    refine List.inj_on_of_nodup_map distinct isListed otherListed ?_
    rw [respects usual first isUsual isFirst sameKey, same,
      respects other second isOther isSecond otherKey]
  rw [← sameKey, ← otherKey, equal]

variable {condition : α → Prop} {key : α → κ} {first second : List α}

/-- The identities of one list are among those of another one when its keys are
among the keys of the other. -/
theorem forall_mem_identity_iff (keyed : IsKeyed condition key)
    (firstValid : ∀ item ∈ first, condition item)
    (secondValid : ∀ item ∈ second, condition item) :
    (∀ number ∈ first.map identity, number ∈ second.map identity) ↔
      ∀ found ∈ first.map key, found ∈ second.map key := by
  rw [List.forall_mem_map, List.forall_mem_map]
  simp only [List.mem_map]
  refine forall₂_congr fun item isItem => exists_congr fun other => ?_
  refine and_congr_right fun isOther => ?_
  exact keyed other item (secondValid other isOther) (firstValid item isItem)

theorem ofList_beq_iff (keyed : IsKeyed condition key)
    (firstValid : ∀ item ∈ first, condition item)
    (secondValid : ∀ item ∈ second, condition item) :
    (ofList first == ofList second) = true ↔
      ∀ found, found ∈ first.map key ↔ found ∈ second.map key := by
  simp only [beq_iff_mem_identities, mem_identities_ofList_iff,
    iff_iff_implies_and_implies, forall_and,
    keyed.forall_mem_identity_iff firstValid secondValid,
    keyed.forall_mem_identity_iff secondValid firstValid]

theorem map_members_perm [DecidableEq κ] (keyed : IsKeyed condition key)
    {items : List α} (valid : ∀ item ∈ items, condition item) :
    ((ofList items).members.map key).Perm (items.map key).dedup := by
  have validMembers : ∀ member ∈ (ofList items).members, condition member :=
    fun member isMember => valid member (mem_ofList_iff.mp isMember).mem
  have nodup : ((ofList items).members.map key).Nodup := by
    refine List.pairwise_map.mpr ((ofList items).ascending.imp_of_mem ?_)
    intro earlier later isEarlier isLater less sameKey
    have same := (keyed earlier later (validMembers earlier isEarlier)
      (validMembers later isLater)).mpr sameKey
    exact UInt64.ne_of_lt less same
  have equalSets : (ofList (ofList items).members == ofList items) = true := by
    rw [ofList_members]
    exact beq_iff.mpr rfl
  refine (List.perm_ext_iff_of_nodup nodup (List.nodup_dedup _)).mpr ?_
  intro found
  rw [List.mem_dedup]
  exact (keyed.ofList_beq_iff validMembers valid).mp equalSets found

end IsKeyed

end ScheduledJobs.IdentitySet
