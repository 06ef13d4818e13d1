import ScheduledJobs.SortedMap

/-! # Maps of ascending entries -/

namespace ScheduledJobs.SortedMap

variable {Value : Type}

theorem placeEntry_of_forall_lt {key : String} {value : Value}
    {entries : List (String × Value)}
    (beyond : ∀ entry ∈ entries, entry.1 < key) :
    placeEntry key value entries = entries ++ [(key, value)] := by
  induction entries with
  | nil => rfl
  | cons head rest ih =>
      have headBefore := beyond head (by simp)
      have notLess : ¬key < head.1 := String.lt_asymm headBefore
      have different : key ≠ head.1 := by
        intro equal
        exact String.lt_irrefl key (equal ▸ headBefore)
      rw [placeEntry, if_neg notLess, if_neg different,
        ih fun entry member => beyond entry (List.mem_cons_of_mem _ member)]
      rfl

theorem entries_foldl_insert (entries : List (String × Value))
    (map : SortedMap Value)
    (ascending : (map.entries ++ entries).Pairwise fun earlier later =>
      earlier.1 < later.1) :
    (entries.foldl (fun map entry => map.insert entry.1 entry.2) map).entries =
      map.entries ++ entries := by
  induction entries generalizing map with
  | nil => simp
  | cons entry entries ih =>
      have beyond : ∀ earlier ∈ map.entries, earlier.1 < entry.1 :=
        fun earlier member => (List.pairwise_append.mp ascending).2.2
          earlier member entry (by simp)
      have placed : (map.insert entry.1 entry.2).entries =
          map.entries ++ [entry] := placeEntry_of_forall_lt beyond
      have regrouped :
          map.entries ++ entry :: entries =
            map.entries ++ [entry] ++ entries := by simp
      rw [regrouped] at ascending ⊢
      rw [List.foldl_cons, ih _ (placed ▸ ascending), placed]

@[simp] theorem ofList_entries (map : SortedMap Value) :
    ofList map.entries = map :=
  SortedMap.ext (entries_foldl_insert map.entries ∅ map.ascending)

theorem lookup_eq_none_of_forall_lt {key : String}
    {entries : List (String × Value)}
    (beyond : ∀ entry ∈ entries, key < entry.1) :
    entries.lookup key = none := by
  induction entries with
  | nil => rfl
  | cons head rest ih =>
      have different : key ≠ head.1 := by
        intro equal
        have below := beyond head (by simp)
        exact String.lt_irrefl key (equal ▸ below)
      rw [lookup_entry, if_neg different,
        ih fun entry member => beyond entry (List.mem_cons_of_mem _ member)]

theorem lookup_eq_none_of_lt_head {key : String} {head : String × Value}
    {rest : List (String × Value)}
    (ascending : (head :: rest).Pairwise fun earlier later =>
      earlier.1 < later.1)
    (below : key < head.1) : (head :: rest).lookup key = none := by
  apply lookup_eq_none_of_forall_lt
  intro entry member
  rcases List.mem_cons.mp member with rfl | later
  · exact below
  · exact String.lt_trans below
      ((List.pairwise_cons.mp ascending).1 entry later)

theorem lookup_head (head : String × Value) (rest : List (String × Value)) :
    (head :: rest).lookup head.1 = some head.2 := by
  rw [lookup_entry, if_pos rfl]

theorem eq_of_lookup_eq {first second : List (String × Value)}
    (firstAscending : first.Pairwise fun earlier later => earlier.1 < later.1)
    (secondAscending : second.Pairwise fun earlier later =>
      earlier.1 < later.1)
    (same : ∀ key, first.lookup key = second.lookup key) :
    first = second := by
  induction first generalizing second with
  | nil =>
      cases second with
      | nil => rfl
      | cons other others =>
          have found := same other.1
          rw [lookup_head] at found
          cases found
  | cons head rest ih =>
      have headFound := same head.1
      rw [lookup_head] at headFound
      cases second with
      | nil => cases headFound
      | cons other others =>
          have otherFound := same other.1
          rw [lookup_head] at otherFound
          rcases Std.lt_trichotomy head.1 other.1 with less | equal | greater
          · rw [lookup_eq_none_of_lt_head secondAscending less] at headFound
            cases headFound
          · rw [equal, lookup_head] at headFound
            have sameHead : head = other :=
              Prod.ext equal (Option.some.inj headFound)
            obtain ⟨headFirst, restAscending⟩ :=
              List.pairwise_cons.mp firstAscending
            obtain ⟨otherFirst, othersAscending⟩ :=
              List.pairwise_cons.mp secondAscending
            have sameRest (key : String) :
                rest.lookup key = others.lookup key := by
              by_cases isHead : key = head.1
              · rw [isHead, lookup_eq_none_of_forall_lt headFirst, equal,
                  lookup_eq_none_of_forall_lt otherFirst]
              · have found := same key
                rwa [lookup_entry, lookup_entry, if_neg isHead,
                  if_neg (equal ▸ isHead)] at found
            rw [sameHead, ih restAscending othersAscending sameRest]
          · rw [lookup_eq_none_of_lt_head firstAscending greater] at otherFound
            cases otherFound

theorem ext_get? {first second : SortedMap Value}
    (same : ∀ key, first.get? key = second.get? key) : first = second :=
  SortedMap.ext (eq_of_lookup_eq first.ascending second.ascending same)

end ScheduledJobs.SortedMap
