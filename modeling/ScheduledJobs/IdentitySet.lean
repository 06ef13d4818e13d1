/-!
# Sets under an identity

A set holds at most one member of each identity, in ascending order of the
identities. Of several items with one identity the first one is kept, and two
sets are equal when they hold the same identities.
-/

namespace ScheduledJobs

/-- A type whose values have an identity, which unequal values may share. -/
class Identified (α : Type) where
  identity : α → UInt64

export Identified (identity)

/-- A set of values with different identities. -/
structure IdentitySet (α : Type) [Identified α] where
  members : List α
  ascending : members.Pairwise fun earlier later =>
    identity earlier < identity later

namespace IdentitySet

variable {α : Type} [Identified α]

/-- The set without members. -/
def empty : IdentitySet α := ⟨[], .nil⟩

instance : EmptyCollection (IdentitySet α) := ⟨empty⟩

instance : Inhabited (IdentitySet α) := ⟨empty⟩

def size (set : IdentitySet α) : Nat := set.members.length

def isEmpty (set : IdentitySet α) : Bool := set.members.isEmpty

/-- The identities of the members, in ascending order. -/
def identities (set : IdentitySet α) : List UInt64 :=
  set.members.map identity

instance : BEq (IdentitySet α) :=
  ⟨fun first second => first.identities == second.identities⟩

theorem beq_iff {first second : IdentitySet α} :
    (first == second) = true ↔ first.identities = second.identities := by
  change (first.identities == second.identities) = true ↔ _
  exact beq_iff_eq

/-- Whether some member has the identity of the item. -/
def contains (set : IdentitySet α) (item : α) : Bool :=
  set.members.any fun member => identity member == identity item

/-- Put an item in its place among ascending members, unless one of them has
its identity. -/
def placeMember (item : α) : List α → List α
  | [] => [item]
  | member :: others =>
      if identity item < identity member then
        item :: member :: others
      else if identity item = identity member then
        member :: others
      else
        member :: placeMember item others

theorem mem_placeMember {item found : α} {members : List α}
    (member : found ∈ placeMember item members) :
    found = item ∨ found ∈ members := by
  induction members with
  | nil => simp_all [placeMember]
  | cons head others ih =>
      simp only [placeMember] at member
      split at member
      · exact List.mem_cons.mp member
      · split at member
        · exact .inr member
        · rcases List.mem_cons.mp member with rfl | old
          · exact .inr List.mem_cons_self
          · exact (ih old).imp_right
              (List.mem_cons_of_mem _)

theorem pairwise_placeMember (item : α) {members : List α}
    (ascending : members.Pairwise fun earlier later =>
      identity earlier < identity later) :
    (placeMember item members).Pairwise fun earlier later =>
      identity earlier < identity later := by
  induction members with
  | nil => simp [placeMember]
  | cons head others ih =>
      obtain ⟨headFirst, othersAscending⟩ := List.pairwise_cons.mp ascending
      simp only [placeMember]
      split
      case isTrue less =>
        refine List.pairwise_cons.mpr ⟨?_, ascending⟩
        intro member isMember
        rcases List.mem_cons.mp isMember with rfl | old
        · exact less
        · exact UInt64.lt_trans less (headFirst member old)
      case isFalse notLess =>
        split
        case isTrue => exact ascending
        case isFalse different =>
          refine List.pairwise_cons.mpr
            ⟨?_, ih othersAscending⟩
          intro member isMember
          rcases mem_placeMember isMember with rfl | old
          · exact UInt64.lt_of_le_of_ne (UInt64.not_lt.mp notLess)
              fun equal => different equal.symm
          · exact headFirst member old

/-- The set with the item, unless a member has its identity already. -/
def insert (set : IdentitySet α) (item : α) : IdentitySet α :=
  ⟨placeMember item set.members, pairwise_placeMember item set.ascending⟩

/-- Whether no member has the identity of the item, and the set with the item
if that is so. -/
def insertNew (set : IdentitySet α) (item : α) : Bool × IdentitySet α :=
  (!set.contains item, set.insert item)

/-- The set of the items of a list, taken in from the first one on. -/
def ofList (items : List α) : IdentitySet α := items.foldl insert ∅

/-- The members between braces, each written by `member`. -/
def describe (member : α → String) (set : IdentitySet α) : String :=
  "\x7b" ++ String.intercalate ", " (set.members.map member) ++ "\x7d"

end IdentitySet

end ScheduledJobs
