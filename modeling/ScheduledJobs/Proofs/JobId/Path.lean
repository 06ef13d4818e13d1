import ScheduledJobs.JobId
import ScheduledJobs.Proofs.Text.Segments

/-!
# Paths of keys and values

Which pairs of a key and a value a path is made of is said by how it is
written.
-/

namespace ScheduledJobs

open Text

/-- Whether the text can stand between two slashes of a path. -/
def IsSegment (part : String) : Prop :=
  part ≠ "" ∧ '/' ∉ part.toList

instance (part : String) : Decidable (IsSegment part) :=
  inferInstanceAs (Decidable (_ ∧ _))

namespace JobId

/-- The path of pairs, with a slash before every key and every value. -/
def pathText : List (String × String) → String
  | [] => ""
  | (key, value) :: others => "/" ++ key ++ "/" ++ value ++ pathText others

/-- Whether the text is the path of the pairs; a path may go on with slashes at
its end. -/
structure IsPath (text : String) (pairs : List (String × String)) : Prop where
  nonempty : pairs ≠ []
  areSegments : ∀ pair ∈ pairs, IsSegment pair.1 ∧ IsSegment pair.2
  written : ∃ count, text.toList =
    (pathText pairs).toList ++ List.replicate count '/'

/-- The characters of the keys and values. -/
def characters (pairs : List (String × String)) :
    List (List Char × List Char) :=
  pairs.map fun pair => (pair.1.toList, pair.2.toList)

theorem characters_injective {pairs others : List (String × String)}
    (equal : characters pairs = characters others) : pairs = others := by
  refine (List.map_inj_right ?_).mp equal
  rintro ⟨key, value⟩ ⟨otherKey, otherValue⟩ same
  simpa [String.toList_inj] using same

theorem exists_eq_characters (pairs : List (List Char × List Char)) :
    ∃ others, pairs = characters others := by
  refine ⟨pairs.map fun pair =>
    (String.ofList pair.1, String.ofList pair.2), ?_⟩
  simp [characters, Function.comp_def]

/-- Keys and values one after the other. -/
def keysAndValues : List (List Char × List Char) → List (List Char)
  | [] => []
  | (key, value) :: others => key :: value :: keysAndValues others

theorem pairs?_eq_some_iff {segments : List (List Char)}
    {pairs : List (List Char × List Char)} :
    pairs? segments = some pairs ↔
      segments = keysAndValues pairs ∧ ∀ segment ∈ segments, segment ≠ [] := by
  induction segments using pairs?.induct generalizing pairs with
  | case1 => cases pairs <;> simp [pairs?, keysAndValues]
  | case2 segment => cases pairs <;> simp [pairs?, keysAndValues]
  | case3 key value others empty =>
      have missing : key = [] ∨ value = [] := by simpa using empty
      simp only [pairs?, empty, if_true, reduceCtorEq, false_iff]
      rintro ⟨-, nonempty⟩
      rcases missing with rfl | rfl
      · exact nonempty [] (by simp) rfl
      · exact nonempty [] (by simp) rfl
  | case4 key value others nonempty ih =>
      have given : key ≠ [] ∧ value ≠ [] := by simpa using nonempty
      simp only [pairs?, nonempty, Bool.false_eq_true, if_false,
        Option.map_eq_some_iff, List.forall_mem_cons]
      constructor
      · rintro ⟨rest, paired, rfl⟩
        obtain ⟨same, nonempties⟩ := ih.mp paired
        exact ⟨by rw [keysAndValues, same], given.1, given.2, nonempties⟩
      · rintro ⟨same, -, -, nonempties⟩
        cases pairs with
        | nil => cases same
        | cons pair rest =>
            obtain ⟨sameKey, sameValue, sameOthers⟩ :
                key = pair.1 ∧ value = pair.2 ∧
                  others = keysAndValues rest := by
              simpa [keysAndValues] using same
            exact ⟨rest, ih.mpr ⟨sameOthers, nonempties⟩, by
              rw [sameKey, sameValue]⟩

theorem toList_pathText {pairs : List (String × String)}
    (nonempty : pairs ≠ []) :
    (pathText pairs).toList =
      '/' :: joinSegments '/' (keysAndValues (characters pairs)) := by
  induction pairs with
  | nil => exact absurd rfl nonempty
  | cons pair others ih =>
      obtain ⟨key, value⟩ := pair
      cases others with
      | nil => simp [pathText, characters, keysAndValues]
      | cons second others =>
          have rest := ih (List.cons_ne_nil _ _)
          rw [pathText]
          simp only [String.toList_append, rest]
          simp [characters, keysAndValues]

theorem forall_mem_keysAndValues_iff {pairs : List (String × String)} :
    (∀ segment ∈ keysAndValues (characters pairs),
      segment ≠ [] ∧ '/' ∉ segment) ↔
      ∀ pair ∈ pairs, IsSegment pair.1 ∧ IsSegment pair.2 := by
  induction pairs with
  | nil => simp [characters, keysAndValues]
  | cons pair others ih =>
      have cut : characters (pair :: others) =
          (pair.1.toList, pair.2.toList) :: characters others := rfl
      rw [cut, keysAndValues, List.forall_mem_cons, List.forall_mem_cons, ih,
        List.forall_mem_cons]
      simp [IsSegment, and_assoc]

theorem keysAndValues_ne_nil {pairs : List (String × String)}
    (nonempty : pairs ≠ []) : keysAndValues (characters pairs) ≠ [] := by
  cases pairs with
  | nil => exact absurd rfl nonempty
  | cons pair others => exact List.cons_ne_nil _ _

theorem IsPath.pathPairs?_eq {text : String} {pairs : List (String × String)}
    (path : IsPath text pairs) : pathPairs? text = some (characters pairs) := by
  obtain ⟨nonempty, areSegments, count, written⟩ := path
  have apart := forall_mem_keysAndValues_iff.mpr areSegments
  have some := keysAndValues_ne_nil nonempty
  have untrimmed := trimEnd_joinSegments some apart
  have divided : segments '/'
      (joinSegments '/' (keysAndValues (characters pairs))) =
        keysAndValues (characters pairs) := by
    obtain ⟨first, others, isCons⟩ := List.exists_cons_of_ne_nil some
    rw [isCons] at apart ⊢
    exact segments_joinSegments fun segment member =>
      (apart segment member).2
  rw [pathPairs?, written, toList_pathText nonempty]
  simp only [List.cons_append, trimEnd_append_replicate, untrimmed, divided]
  exact pairs?_eq_some_iff.mpr
    ⟨rfl, fun segment member => (apart segment member).1⟩

theorem isPath_of_pathPairs? {text : String} {pairs : List (String × String)}
    (paired : pathPairs? text = some (characters pairs)) :
    IsPath text pairs := by
  unfold pathPairs? at paired
  split at paired
  · next rest isPath =>
      obtain ⟨divided, nonempties⟩ := pairs?_eq_some_iff.mp paired
      have nonempty : pairs ≠ [] := by
        rintro rfl
        exact segments_ne_nil _ _ divided
      obtain ⟨count, whole⟩ := exists_eq_trimEnd_append '/' rest
      have joined := joinSegments_segments '/' (trimEnd '/' rest)
      refine ⟨nonempty, forall_mem_keysAndValues_iff.mp ?_, count, ?_⟩
      · intro segment member
        rw [← divided] at member
        exact ⟨nonempties segment member, not_mem_of_mem_segments member⟩
      · rw [toList_pathText nonempty, ← divided, joined, List.cons_append,
          ← whole, isPath]
  · cases paired

theorem IsPath.unique {text : String} {pairs others : List (String × String)}
    (path : IsPath text pairs) (other : IsPath text others) :
    pairs = others :=
  characters_injective
    (Option.some.inj (path.pathPairs?_eq.symm.trans other.pathPairs?_eq))

theorem pathPairs?_eq_none_iff {text : String} :
    pathPairs? text = none ↔ ∀ pairs, ¬IsPath text pairs := by
  constructor
  · intro none pairs path
    rw [path.pathPairs?_eq] at none
    cases none
  · intro noPath
    cases paired : pathPairs? text with
    | none => rfl
    | some pairs =>
        obtain ⟨others, rfl⟩ := exists_eq_characters pairs
        exact absurd (isPath_of_pathPairs? paired) (noPath others)

/-- Whether two keys agree, up to the case of ASCII letters. -/
def SameKey (first second : String) : Prop :=
  foldCase first.toList = foldCase second.toList

instance (first second : String) : Decidable (SameKey first second) :=
  inferInstanceAs (Decidable (_ = _))

/-- Whether the key stands in one of the pairs. -/
def Occurs (key : String) (pairs : List (String × String)) : Prop :=
  ∃ pair ∈ pairs, SameKey pair.1 key

instance (key : String) (pairs : List (String × String)) :
    Decidable (Occurs key pairs) :=
  inferInstanceAs (Decidable (∃ pair ∈ pairs, _))

theorem occurs_nil (key : String) : ¬Occurs key [] := by
  rintro ⟨pair, member, -⟩
  cases member

theorem occurs_cons {key name value : String}
    {pairs : List (String × String)} :
    Occurs key ((name, value) :: pairs) ↔
      SameKey name key ∨ Occurs key pairs := by
  simp [Occurs]

/-- Whether the value stands in the first of the pairs that have the key. -/
def IsFirstUnder (key : String) (pairs : List (String × String))
    (value : String) : Prop :=
  ∃ before name after, pairs = before ++ (name, value) :: after ∧
    SameKey name key ∧ ¬Occurs key before

theorem lookup_characters (text key : String)
    (pairs : List (String × String)) :
    lookup text (characters pairs) key =
      match pairs.find? fun pair => SameKey pair.1 key with
      | some pair => .ok pair.2
      | none => .error (.missing text key) := by
  have sameTest : (fun pair : String × String =>
      foldCase pair.1.toList == foldCase key.toList) =
      fun pair => decide (SameKey pair.1 key) :=
    funext fun pair =>
      Bool.eq_iff_iff.mpr (beq_iff_eq.trans decide_eq_true_iff.symm)
  simp only [lookup, characters, List.find?_map, Function.comp_def, sameTest]
  cases pairs.find? fun pair => SameKey pair.1 key with
  | none => rfl
  | some pair => simp

theorem lookup_eq_ok_iff {text key value : String}
    {pairs : List (String × String)} :
    lookup text (characters pairs) key = .ok value ↔
      IsFirstUnder key pairs value := by
  rw [lookup_characters, IsFirstUnder]
  constructor
  · intro found
    split at found
    · next pair isFound =>
        obtain rfl := Except.ok.inj found
        obtain ⟨same, before, after, divided, others⟩ :=
          List.find?_eq_some_iff_append.mp isFound
        refine ⟨before, pair.1, after, divided, by simpa using same, ?_⟩
        rintro ⟨other, member, sameOther⟩
        simpa [sameOther] using others other member
    · cases found
  · rintro ⟨before, name, after, rfl, same, absent⟩
    have isFound : (before ++ (name, value) :: after).find?
        (fun pair => SameKey pair.1 key) = some (name, value) := by
      refine List.find?_eq_some_iff_append.mpr
        ⟨by simpa using same, before, after, rfl, fun other member => ?_⟩
      have different : ¬SameKey other.1 key := fun sameOther =>
        absent ⟨other, member, sameOther⟩
      simp [different]
    rw [isFound]

theorem lookup_eq_error_iff {text key : String}
    {pairs : List (String × String)} {error : Error} :
    lookup text (characters pairs) key = .error error ↔
      ¬Occurs key pairs ∧ error = .missing text key := by
  rw [lookup_characters]
  cases found : pairs.find? fun pair => SameKey pair.1 key with
  | none =>
      have absent : ¬Occurs key pairs := by
        rintro ⟨pair, member, same⟩
        simpa [same] using List.find?_eq_none.mp found pair member
      simp [absent, eq_comm]
  | some pair =>
      have occurs : Occurs key pairs :=
        ⟨pair, List.mem_of_find?_eq_some found,
          by simpa using List.find?_some found⟩
      simp [occurs]

theorem IsFirstUnder.occurs {key value : String}
    {pairs : List (String × String)} (first : IsFirstUnder key pairs value) :
    Occurs key pairs := by
  obtain ⟨before, name, after, rfl, same, -⟩ := first
  exact ⟨(name, value), by simp, same⟩

theorem IsFirstUnder.unique {key value other : String}
    {pairs : List (String × String)} (first : IsFirstUnder key pairs value)
    (second : IsFirstUnder key pairs other) : value = other := by
  have found : lookup "" (characters pairs) key = .ok value :=
    lookup_eq_ok_iff.mpr first
  rw [lookup_eq_ok_iff.mpr second] at found
  exact (Except.ok.inj found).symm

end JobId

end ScheduledJobs
