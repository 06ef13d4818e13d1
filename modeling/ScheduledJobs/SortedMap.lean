/-!
# Maps with ascending keys

A finite map from texts to values is the list of its entries in ascending order
of the keys, so two maps with the same values under the same keys are equal.
-/

namespace ScheduledJobs

/-- A finite map from texts to values of type `Value`. -/
@[ext] structure SortedMap (Value : Type) where
  entries : List (String × Value)
  ascending : entries.Pairwise fun earlier later => earlier.1 < later.1

namespace SortedMap

variable {Value : Type}

instance [DecidableEq Value] : DecidableEq (SortedMap Value) :=
  fun first second =>
    decidable_of_iff (first.entries = second.entries) SortedMap.ext_iff.symm

/-- The map without entries. -/
def empty : SortedMap Value := ⟨[], .nil⟩

instance : EmptyCollection (SortedMap Value) := ⟨empty⟩

instance : Inhabited (SortedMap Value) := ⟨empty⟩

/-- The keys in ascending order. -/
def keys (map : SortedMap Value) : List String := map.entries.map Prod.fst

def get? (map : SortedMap Value) (key : String) : Option Value :=
  map.entries.lookup key

def contains (map : SortedMap Value) (key : String) : Bool :=
  (map.get? key).isSome

/-- Put an entry in its place among ascending entries; an entry with the same
key gives way. -/
def placeEntry (key : String) (value : Value) :
    List (String × Value) → List (String × Value)
  | [] => [(key, value)]
  | entry :: rest =>
      if key < entry.1 then
        (key, value) :: entry :: rest
      else if key = entry.1 then
        (key, value) :: rest
      else
        entry :: placeEntry key value rest

theorem fst_mem_placeEntry {key : String} {value : Value}
    {entries : List (String × Value)} {entry : String × Value}
    (member : entry ∈ placeEntry key value entries) :
    entry.1 = key ∨ entry ∈ entries := by
  induction entries with
  | nil => simp_all [placeEntry]
  | cons head rest ih =>
      simp only [placeEntry] at member
      split at member
      · rcases List.mem_cons.mp member with rfl | old
        · exact .inl rfl
        · exact .inr old
      · split at member
        · rcases List.mem_cons.mp member with rfl | old
          · exact .inl rfl
          · exact .inr (List.mem_cons_of_mem _ old)
        · rcases List.mem_cons.mp member with rfl | old
          · exact .inr List.mem_cons_self
          · exact (ih old).imp_right
              (List.mem_cons_of_mem _)

theorem lt_of_not_lt_of_ne {first second : String} (notLess : ¬first < second)
    (different : first ≠ second) : second < first := by
  rcases Std.lt_trichotomy first second with less | equal | greater
  · exact absurd less notLess
  · exact absurd equal different
  · exact greater

theorem pairwise_placeEntry (key : String) (value : Value)
    {entries : List (String × Value)}
    (ascending : entries.Pairwise fun earlier later => earlier.1 < later.1) :
    (placeEntry key value entries).Pairwise
      fun earlier later => earlier.1 < later.1 := by
  induction entries with
  | nil => simp [placeEntry]
  | cons head rest ih =>
      obtain ⟨headFirst, restAscending⟩ := List.pairwise_cons.mp ascending
      simp only [placeEntry]
      split
      case isTrue less =>
        refine List.pairwise_cons.mpr ⟨?_, ascending⟩
        intro entry member
        rcases List.mem_cons.mp member with rfl | old
        · exact less
        · exact String.lt_trans less (headFirst entry old)
      case isFalse notLess =>
        split
        case isTrue equal =>
          exact List.pairwise_cons.mpr
            ⟨fun entry member => equal ▸ headFirst entry member, restAscending⟩
        case isFalse different =>
          refine List.pairwise_cons.mpr
            ⟨?_, ih restAscending⟩
          intro entry member
          rcases fst_mem_placeEntry member with same | old
          · exact same ▸ lt_of_not_lt_of_ne notLess different
          · exact headFirst entry old

/-- The map with the value under the key, whatever was there before. -/
def insert (map : SortedMap Value) (key : String) (value : Value) :
    SortedMap Value :=
  ⟨placeEntry key value map.entries,
    pairwise_placeEntry key value map.ascending⟩

/-- The map without a value under the key. -/
def erase (map : SortedMap Value) (key : String) : SortedMap Value :=
  ⟨map.entries.filter fun entry => entry.1 != key,
    map.ascending.filter _⟩

/-- The map of a list of entries; of several values under one key the last
one counts. -/
def ofList (entries : List (String × Value)) : SortedMap Value :=
  entries.foldl (fun map entry => map.insert entry.1 entry.2) ∅

theorem lookup_entry (key : String) (entry : String × Value)
    (rest : List (String × Value)) :
    (entry :: rest).lookup key =
      if key = entry.1 then some entry.2 else rest.lookup key := by
  obtain ⟨first, value⟩ := entry
  by_cases same : key = first
  · simp [same]
  · have different : (key == first) = false := by simpa using same
    simp [List.lookup_cons, same, different]

theorem lookup_placeEntry (key other : String) (value : Value)
    (entries : List (String × Value)) :
    (placeEntry key value entries).lookup other =
      if other = key then some value else entries.lookup other := by
  induction entries with
  | nil => simp only [placeEntry, lookup_entry]
  | cons head rest ih =>
      simp only [placeEntry]
      split
      · simp only [lookup_entry]
      · split
        · next equal =>
            simp only [lookup_entry, ← equal]
            by_cases same : other = key <;> simp [same]
        · next different =>
            simp only [lookup_entry, ih]
            by_cases same : other = key <;> simp [same, different]

theorem get?_insert (map : SortedMap Value) (key other : String)
    (value : Value) :
    (map.insert key value).get? other =
      if other = key then some value else map.get? other :=
  lookup_placeEntry key other value map.entries

@[simp] theorem get?_insert_self (map : SortedMap Value) (key : String)
    (value : Value) : (map.insert key value).get? key = some value := by
  simp [get?_insert]

theorem lookup_filter (key other : String) (entries : List (String × Value)) :
    (entries.filter fun entry => entry.1 != key).lookup other =
      if other = key then none else entries.lookup other := by
  induction entries with
  | nil => simp
  | cons head rest ih =>
      by_cases dropped : head.1 = key
      · simp only [List.filter_cons, dropped, bne_self_eq_false,
          Bool.false_eq_true, if_false, ih, lookup_entry]
        by_cases same : other = key <;> simp [same]
      · have kept : (head.1 != key) = true := by simpa using dropped
        simp only [List.filter_cons, kept, if_true, lookup_entry,
          ih]
        by_cases same : other = key
        · have apart : key ≠ head.1 := fun equal => dropped equal.symm
          simp [same, apart]
        · simp [same]

theorem get?_erase (map : SortedMap Value) (key other : String) :
    (map.erase key).get? other =
      if other = key then none else map.get? other :=
  lookup_filter key other map.entries

end SortedMap

end ScheduledJobs
