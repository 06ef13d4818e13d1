import ScheduledJobs.IdentitySet

/-!
# Sets of lists

The members of a set are the first items of each identity in its list.
-/

namespace ScheduledJobs.IdentitySet

variable {α : Type} [Identified α]

@[ext] theorem ext {first second : IdentitySet α}
    (same : first.members = second.members) : first = second := by
  cases first
  cases second
  cases same
  rfl

theorem placeMember_of_forall_lt {item : α} {members : List α}
    (beyond : ∀ member ∈ members, identity member < identity item) :
    placeMember item members = members ++ [item] := by
  induction members with
  | nil => rfl
  | cons head others ih =>
      have headBefore := beyond head (by simp)
      have notLess : ¬identity item < identity head :=
        UInt64.lt_asymm headBefore
      have different : identity item ≠ identity head :=
        (UInt64.ne_of_lt headBefore).symm
      rw [placeMember, if_neg notLess, if_neg different,
        ih fun member isMember =>
          beyond member (List.mem_cons_of_mem _ isMember)]
      rfl

theorem members_foldl_insert (items : List α) (set : IdentitySet α)
    (ascending : (set.members ++ items).Pairwise fun earlier later =>
      identity earlier < identity later) :
    (items.foldl insert set).members = set.members ++ items := by
  induction items generalizing set with
  | nil => simp
  | cons item items ih =>
      have beyond :
          ∀ member ∈ set.members, identity member < identity item :=
        fun member isMember => (List.pairwise_append.mp ascending).2.2
          member isMember item (by simp)
      have placed : (set.insert item).members = set.members ++ [item] :=
        placeMember_of_forall_lt beyond
      have regrouped :
          set.members ++ item :: items = set.members ++ [item] ++ items := by
        simp
      rw [regrouped] at ascending ⊢
      rw [List.foldl_cons, ih (set.insert item) (placed ▸ ascending), placed]

theorem members_ofList {items : List α}
    (ascending : items.Pairwise fun earlier later =>
      identity earlier < identity later) : (ofList items).members = items :=
  members_foldl_insert items ∅ ascending

@[simp] theorem ofList_members (set : IdentitySet α) :
    ofList set.members = set :=
  ext (members_ofList set.ascending)

theorem map_identity_placeMember {item other : α} {members others : List α}
    (sameItem : identity item = identity other)
    (sameMembers : members.map identity = others.map identity) :
    (placeMember item members).map identity =
      (placeMember other others).map identity := by
  induction members generalizing others with
  | nil =>
      obtain rfl : others = [] := by simpa using sameMembers.symm
      simp [placeMember, sameItem]
  | cons head members ih =>
      cases others with
      | nil => simp at sameMembers
      | cons otherHead others =>
          simp only [List.map_cons, List.cons.injEq] at sameMembers
          obtain ⟨sameHead, sameTail⟩ := sameMembers
          have placed := ih sameTail
          simp only [placeMember, sameItem, sameHead]
          split
          · simp [sameItem, sameHead, sameTail]
          · split
            · simp [sameHead, sameTail]
            · simp [sameHead, placed]

theorem identities_foldl_insert {items others : List α}
    (same : items.map identity = others.map identity)
    {set other : IdentitySet α} (equal : set.identities = other.identities) :
    (items.foldl insert set).identities =
      (others.foldl insert other).identities := by
  induction items generalizing others set other with
  | nil =>
      obtain rfl : others = [] := by simpa using same.symm
      exact equal
  | cons item items ih =>
      cases others with
      | nil => simp at same
      | cons first others =>
          simp only [List.map_cons, List.cons.injEq] at same
          exact ih same.2 (map_identity_placeMember same.1 equal)

theorem identities_ofList {items others : List α}
    (same : items.map identity = others.map identity) :
    (ofList items).identities = (ofList others).identities :=
  identities_foldl_insert same rfl

theorem isEmpty_eq_false_iff {set : IdentitySet α} :
    set.isEmpty = false ↔ set.members ≠ [] := by
  simp [isEmpty]

theorem mem_placeMember_iff {item found : α} {members : List α}
    (ascending : members.Pairwise fun earlier later =>
      identity earlier < identity later) :
    found ∈ placeMember item members ↔
      found ∈ members ∨
        found = item ∧ ∀ member ∈ members, identity member ≠ identity item := by
  induction members with
  | nil => simp [placeMember]
  | cons head others ih =>
      obtain ⟨headFirst, othersAscending⟩ := List.pairwise_cons.mp ascending
      rw [placeMember]
      split
      case isTrue less =>
        have different : ∀ member ∈ head :: others,
            identity member ≠ identity item := by
          refine List.forall_mem_cons.mpr
            ⟨(UInt64.ne_of_lt less).symm, fun member isMember => ?_⟩
          exact (UInt64.ne_of_lt
            (UInt64.lt_trans less (headFirst member isMember))).symm
        rw [List.mem_cons, or_comm, and_iff_left different]
      case isFalse notLess =>
        split
        case isTrue same =>
          exact (or_iff_left fun added =>
            added.2 head List.mem_cons_self same.symm).symm
        case isFalse different =>
          have headDiffers : identity head ≠ identity item :=
            fun same => different same.symm
          rw [List.mem_cons, ih othersAscending, List.mem_cons, or_assoc,
            List.forall_mem_cons, and_iff_right headDiffers]

/-- Whether the item is the first one of the list with its identity. -/
def IsFirst (item : α) (items : List α) : Prop :=
  ∃ before after, items = before ++ item :: after ∧
    ∀ earlier ∈ before, identity earlier ≠ identity item

theorem isFirst_nil (item : α) : ¬IsFirst item [] := by
  rintro ⟨before, after, divided, -⟩
  simp at divided

theorem isFirst_cons_iff {item first : α} {others : List α} :
    IsFirst item (first :: others) ↔
      item = first ∨
        identity first ≠ identity item ∧ IsFirst item others := by
  constructor
  · rintro ⟨before, after, divided, different⟩
    cases before with
    | nil => exact .inl (List.cons.inj divided).1.symm
    | cons earlier before =>
        obtain ⟨rfl, rfl⟩ := List.cons.inj divided
        exact .inr ⟨different first List.mem_cons_self, before, after, rfl,
          fun other member => different other (List.mem_cons_of_mem _ member)⟩
  · rintro (rfl | ⟨differs, before, after, rfl, different⟩)
    · exact ⟨[], others, rfl, nofun⟩
    · exact ⟨first :: before, after, rfl,
        List.forall_mem_cons.mpr ⟨differs, different⟩⟩

theorem mem_foldl_insert_iff {items : List α} {set : IdentitySet α}
    {found : α} :
    found ∈ (items.foldl insert set).members ↔
      found ∈ set.members ∨
        IsFirst found items ∧
          ∀ member ∈ set.members, identity member ≠ identity found := by
  induction items generalizing set with
  | nil => simp [isFirst_nil]
  | cons item items ih =>
      have inserted (other : α) : other ∈ (set.insert item).members ↔
          other ∈ set.members ∨ other = item ∧
            ∀ member ∈ set.members, identity member ≠ identity item :=
        mem_placeMember_iff set.ascending
      rw [List.foldl_cons, ih, isFirst_cons_iff]
      simp only [inserted]
      grind

/-- The members of the set of a list are the first items of each identity. -/
theorem mem_ofList_iff {items : List α} {item : α} :
    item ∈ (ofList items).members ↔ IsFirst item items := by
  rw [ofList, mem_foldl_insert_iff]
  have noMembers : (∅ : IdentitySet α).members = [] := rfl
  simp [noMembers]

theorem IsFirst.mem {item : α} {items : List α} (first : IsFirst item items) :
    item ∈ items := by
  obtain ⟨before, after, rfl, -⟩ := first
  simp

theorem IsFirst.append {item : α} {items : List α}
    (first : IsFirst item items) (others : List α) :
    IsFirst item (items ++ others) := by
  obtain ⟨before, after, rfl, different⟩ := first
  exact ⟨before, after ++ others, by simp, different⟩

theorem exists_isFirst_of_mem {item : α} {items : List α}
    (member : item ∈ items) :
    ∃ kept, IsFirst kept items ∧ identity kept = identity item := by
  induction items with
  | nil => cases member
  | cons first others ih =>
      by_cases same : identity first = identity item
      · exact ⟨first, isFirst_cons_iff.mpr (.inl rfl), same⟩
      · have isOther : item ∈ others := by
          rcases List.mem_cons.mp member with rfl | isOther
          · exact absurd rfl same
          · exact isOther
        obtain ⟨kept, isFirst, sameIdentity⟩ := ih isOther
        have differs : identity first ≠ identity kept := fun equal =>
          same (equal.trans sameIdentity)
        exact ⟨kept, isFirst_cons_iff.mpr (.inr ⟨differs, isFirst⟩),
          sameIdentity⟩

/-- Every item of a list is a member of the set of the list, or a member that
stands before it has its identity. -/
theorem mem_ofList_or_exists_earlier (before : List α) (item : α)
    (after : List α) :
    item ∈ (ofList (before ++ item :: after)).members ∨
      ∃ kept ∈ before, identity kept = identity item ∧
        kept ∈ (ofList (before ++ item :: after)).members := by
  simp only [mem_ofList_iff]
  by_cases repeated : ∃ other ∈ before, identity other = identity item
  · obtain ⟨other, isEarlier, sameOther⟩ := repeated
    obtain ⟨kept, isFirst, same⟩ := exists_isFirst_of_mem isEarlier
    exact .inr ⟨kept, isFirst.mem, same.trans sameOther, isFirst.append _⟩
  · exact .inl ⟨before, after, rfl, fun earlier isEarlier same =>
      repeated ⟨earlier, isEarlier, same⟩⟩

end ScheduledJobs.IdentitySet
