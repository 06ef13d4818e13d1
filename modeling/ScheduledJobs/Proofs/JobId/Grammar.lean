import ScheduledJobs.Proofs.JobId.Path
import ScheduledJobs.Proofs.Results

/-!
# The grammar of ids

The parts of an id stand under the first occurrences of their keys in the path
that its text is, and nothing else in the path matters.
-/

namespace ScheduledJobs.JobId

attribute [ext] JobId

/-- The keys of an id in the order in which they are looked for. -/
def keys : List String :=
  ["subscriptions", "resourceGroups", "jobCollections", "jobs"]

/-- Whether the key is the first one of an id that stands in none of the
pairs. -/
def IsFirstAbsent (key : String) (pairs : List (String × String)) : Prop :=
  ∃ before after, keys = before ++ key :: after ∧
    (∀ earlier ∈ before, Occurs earlier pairs) ∧ ¬Occurs key pairs

/-- Whether the parts of the id are the values of the first pairs that have
their keys. -/
structure HasParts (pairs : List (String × String)) (id : JobId) : Prop where
  subscription : IsFirstUnder "subscriptions" pairs id.subscription
  resourceGroup : IsFirstUnder "resourceGroups" pairs id.resourceGroup
  collection : IsFirstUnder "jobCollections" pairs id.collection
  name : IsFirstUnder "jobs" pairs id.name

/-- What reading a text comes to. -/
inductive Reads (text : String) : Except Error JobId → Prop where
  | malformed (noPath : ∀ pairs, ¬IsPath text pairs) :
      Reads text (.error (.malformed text))
  | missing {pairs : List (String × String)} {key : String}
      (path : IsPath text pairs) (absent : IsFirstAbsent key pairs) :
      Reads text (.error (.missing text key))
  | denotes {pairs : List (String × String)} {id : JobId}
      (path : IsPath text pairs) (parts : HasParts pairs id) :
      Reads text (.ok id)

theorem lookup_cases (text key : String) (pairs : List (String × String)) :
    (∃ value, lookup text (characters pairs) key = .ok value ∧
      IsFirstUnder key pairs value) ∨
    (lookup text (characters pairs) key = .error (.missing text key) ∧
      ¬Occurs key pairs) := by
  cases found : lookup text (characters pairs) key with
  | ok value => exact .inl ⟨value, rfl, lookup_eq_ok_iff.mp found⟩
  | error error =>
      obtain ⟨absent, rfl⟩ := lookup_eq_error_iff.mp found
      exact .inr ⟨rfl, absent⟩

/-- The keys are looked for in their order, so the first lookup that fails finds
the first absent key. -/
theorem reads_of_isPath {text : String} {pairs : List (String × String)}
    (path : IsPath text pairs) : Reads text (ofText text) := by
  rw [ofText, path.pathPairs?_eq]
  dsimp only
  rcases lookup_cases text "subscriptions" pairs with
    ⟨subscription, found, isSubscription⟩ | ⟨missing, absent⟩
  case inr =>
    rw [missing]
    exact .missing path ⟨[], _, rfl, by simp, absent⟩
  rw [found, ok_bind]
  rcases lookup_cases text "resourceGroups" pairs with
    ⟨resourceGroup, found, isResourceGroup⟩ | ⟨missing, absent⟩
  case inr =>
    rw [missing]
    exact .missing path ⟨["subscriptions"], _, rfl,
      by simp [isSubscription.occurs], absent⟩
  rw [found, ok_bind]
  rcases lookup_cases text "jobCollections" pairs with
    ⟨collection, found, isCollection⟩ | ⟨missing, absent⟩
  case inr =>
    rw [missing]
    exact .missing path ⟨["subscriptions", "resourceGroups"], _, rfl,
      by simp [isSubscription.occurs, isResourceGroup.occurs], absent⟩
  rw [found, ok_bind]
  rcases lookup_cases text "jobs" pairs with
    ⟨name, found, isName⟩ | ⟨missing, absent⟩
  case inr =>
    rw [missing]
    exact .missing path
      ⟨["subscriptions", "resourceGroups", "jobCollections"], _, rfl,
        by simp [isSubscription.occurs, isResourceGroup.occurs,
          isCollection.occurs], absent⟩
  rw [found]
  exact .denotes path ⟨isSubscription, isResourceGroup, isCollection, isName⟩

theorem reads_ofText (text : String) : Reads text (ofText text) := by
  cases paired : pathPairs? text with
  | none =>
      rw [ofText, paired]
      exact .malformed (pathPairs?_eq_none_iff.mp paired)
  | some pairs =>
      obtain ⟨pairs, rfl⟩ := exists_eq_characters pairs
      exact reads_of_isPath (isPath_of_pathPairs? paired)

theorem IsFirstAbsent.find?_eq {key : String} {pairs : List (String × String)}
    (first : IsFirstAbsent key pairs) :
    keys.find? (fun key => ¬Occurs key pairs) = some key := by
  obtain ⟨before, after, order, earlier, absent⟩ := first
  refine List.find?_eq_some_iff_append.mpr
    ⟨by simpa using absent, before, after, order, fun other member => ?_⟩
  simpa using earlier other member

theorem IsFirstAbsent.unique {key other : String}
    {pairs : List (String × String)} (first : IsFirstAbsent key pairs)
    (second : IsFirstAbsent other pairs) : key = other :=
  Option.some.inj (first.find?_eq.symm.trans second.find?_eq)

theorem HasParts.occurs {pairs : List (String × String)} {id : JobId}
    (parts : HasParts pairs id) {key : String} (isKey : key ∈ keys) :
    Occurs key pairs := by
  simp only [keys, List.mem_cons, List.not_mem_nil, or_false] at isKey
  rcases isKey with rfl | rfl | rfl | rfl
  · exact parts.subscription.occurs
  · exact parts.resourceGroup.occurs
  · exact parts.collection.occurs
  · exact parts.name.occurs

theorem HasParts.not_isFirstAbsent {pairs : List (String × String)}
    {id : JobId} (parts : HasParts pairs id) (key : String) :
    ¬IsFirstAbsent key pairs := by
  rintro ⟨before, after, order, -, absent⟩
  exact absent (parts.occurs (by simp [order]))

theorem HasParts.unique {pairs : List (String × String)} {first second : JobId}
    (one : HasParts pairs first) (other : HasParts pairs second) :
    first = second :=
  JobId.ext (one.subscription.unique other.subscription)
    (one.resourceGroup.unique other.resourceGroup)
    (one.collection.unique other.collection) (one.name.unique other.name)

theorem Reads.unique {text : String} {first second : Except Error JobId}
    (one : Reads text first) (other : Reads text second) :
    first = second := by
  cases one with
  | malformed noPath =>
      cases other with
      | malformed => rfl
      | missing path => exact absurd path (noPath _)
      | denotes path => exact absurd path (noPath _)
  | missing path absent =>
      cases other with
      | malformed noPath => exact absurd path (noPath _)
      | missing otherPath otherAbsent =>
          obtain rfl := path.unique otherPath
          rw [absent.unique otherAbsent]
      | denotes otherPath parts =>
          obtain rfl := path.unique otherPath
          exact absurd absent (parts.not_isFirstAbsent _)
  | denotes path parts =>
      cases other with
      | malformed noPath => exact absurd path (noPath _)
      | missing otherPath absent =>
          obtain rfl := path.unique otherPath
          exact absurd absent (parts.not_isFirstAbsent _)
      | denotes otherPath otherParts =>
          obtain rfl := path.unique otherPath
          rw [parts.unique otherParts]

theorem ofText_eq_iff_reads {text : String} {result : Except Error JobId} :
    ofText text = result ↔ Reads text result := by
  constructor
  · rintro rfl
    exact reads_ofText text
  · exact (reads_ofText text).unique

theorem exists_ofText_eq_ok_iff {text : String} :
    (∃ id, ofText text = .ok id) ↔
      ∃ pairs, IsPath text pairs ∧ ∀ key ∈ keys, Occurs key pairs := by
  constructor
  · rintro ⟨id, read⟩
    cases ofText_eq_iff_reads.mp read with
    | denotes path parts => exact ⟨_, path, fun _ => parts.occurs⟩
  · rintro ⟨pairs, path, occur⟩
    generalize result : ofText text = given
    cases ofText_eq_iff_reads.mp result with
    | malformed noPath => exact absurd path (noPath pairs)
    | missing otherPath absent =>
        obtain rfl := path.unique otherPath
        obtain ⟨before, after, order, -, absent⟩ := absent
        exact absurd (occur _ (by simp [order])) absent
    | denotes _ _ => exact ⟨_, rfl⟩

/-- The values of the pairs that have the key, in the order of the pairs. -/
def valuesUnder (key : String) (pairs : List (String × String)) :
    List String :=
  (pairs.filter fun pair => SameKey pair.1 key).map Prod.snd

/-- Whether the first values under every key of an id are the same.  The pairs
under other keys, the order of pairs with different keys and the case of the
letters of a key do not matter for that. -/
def SameEntries (pairs others : List (String × String)) : Prop :=
  ∀ key ∈ keys, (valuesUnder key pairs).head? = (valuesUnder key others).head?

instance (pairs others : List (String × String)) :
    Decidable (SameEntries pairs others) :=
  inferInstanceAs (Decidable (∀ key ∈ keys, _))

/-- Whether two texts are paths with the same entries, which may end in
different numbers of slashes. -/
def ReadAlike (first second : String) : Prop :=
  ∃ pairs others, IsPath first pairs ∧ IsPath second others ∧
    SameEntries pairs others

/-- The error that is found in the same way in another text. -/
def Error.about (text : String) : Error → Error
  | .malformed _ => .malformed text
  | .missing _ key => .missing text key

theorem isFirstUnder_iff {key value : String}
    {pairs : List (String × String)} :
    IsFirstUnder key pairs value ↔
      (valuesUnder key pairs).head? = some value := by
  have found : IsFirstUnder key pairs value ↔
      lookup "" (characters pairs) key = .ok value := lookup_eq_ok_iff.symm
  rw [found, lookup_characters, valuesUnder, List.head?_map,
    List.head?_filter]
  cases pairs.find? fun pair => SameKey pair.1 key <;> simp

theorem occurs_iff {key : String} {pairs : List (String × String)} :
    Occurs key pairs ↔ (valuesUnder key pairs).head? ≠ none := by
  simp [Occurs, valuesUnder]

theorem HasParts.congr {pairs others : List (String × String)} {id : JobId}
    (same : SameEntries pairs others) (parts : HasParts pairs id) :
    HasParts others id := by
  have moved {key value : String} (isKey : key ∈ keys)
      (first : IsFirstUnder key pairs value) :
      IsFirstUnder key others value :=
    isFirstUnder_iff.mpr (same key isKey ▸ isFirstUnder_iff.mp first)
  exact ⟨moved (by simp [keys]) parts.subscription,
    moved (by simp [keys]) parts.resourceGroup,
    moved (by simp [keys]) parts.collection, moved (by simp [keys]) parts.name⟩

theorem IsFirstAbsent.congr {pairs others : List (String × String)}
    {key : String} (same : SameEntries pairs others)
    (first : IsFirstAbsent key pairs) : IsFirstAbsent key others := by
  have moved (key : String) (isKey : key ∈ keys) :
      Occurs key pairs ↔ Occurs key others := by
    rw [occurs_iff, occurs_iff, same key isKey]
  obtain ⟨before, after, order, earlier, absent⟩ := first
  refine ⟨before, after, order, fun other member => ?_, ?_⟩
  · exact (moved other (by simp [order, member])).mp (earlier other member)
  · exact mt (moved key (by simp [order])).mpr absent

theorem ReadAlike.ofText_eq {first second : String}
    (alike : ReadAlike first second) :
    ofText second = (ofText first).mapError (Error.about second) := by
  obtain ⟨pairs, others, path, otherPath, same⟩ := alike
  generalize result : ofText first = given
  apply ofText_eq_iff_reads.mpr
  cases ofText_eq_iff_reads.mp result with
  | malformed noPath => exact absurd path (noPath pairs)
  | missing givenPath absent =>
      obtain rfl := path.unique givenPath
      exact .missing otherPath (absent.congr same)
  | denotes givenPath parts =>
      obtain rfl := path.unique givenPath
      exact .denotes otherPath (parts.congr same)

/-- Reading a text comes to what the grammar says and to nothing else: an id is
read exactly from the paths that have all its keys, and paths with the same
entries are read alike. -/
theorem ofText_iff_grammar (text : String) :
    (∀ result, ofText text = result ↔ Reads text result) ∧
    ((∃ id, ofText text = .ok id) ↔
      ∃ pairs, IsPath text pairs ∧ ∀ key ∈ keys, Occurs key pairs) ∧
    ∀ other, ReadAlike text other →
      ofText other = (ofText text).mapError (Error.about other) :=
  ⟨fun _ => ofText_eq_iff_reads, exists_ofText_eq_ok_iff,
    fun _ => ReadAlike.ofText_eq⟩

/-- A path with its keys in another order and case, with a pair that belongs to
no id, a key that is repeated and slashes at its end. -/
def unusualPath : String :=
  "/jobs/n/zones/z/SUBSCRIPTIONS/s/resourcegroups/g/jobs/m" ++
    "/jobCollections/c//"

/-- The unusual path is read like the plain one. -/
theorem ofText_unusualPath :
    ReadAlike "/subscriptions/s/resourceGroups/g/jobCollections/c/jobs/n"
        unusualPath ∧
      ofText unusualPath = .ok ⟨"s", "g", "c", "n"⟩ := by
  have plain : IsPath
      "/subscriptions/s/resourceGroups/g/jobCollections/c/jobs/n"
      [("subscriptions", "s"), ("resourceGroups", "g"),
        ("jobCollections", "c"), ("jobs", "n")] :=
    ⟨by decide, by decide, 0, by decide⟩
  have unusual : IsPath unusualPath
      [("jobs", "n"), ("zones", "z"), ("SUBSCRIPTIONS", "s"),
        ("resourcegroups", "g"), ("jobs", "m"), ("jobCollections", "c")] :=
    ⟨by decide, by decide, 2, by decide⟩
  have alike : ReadAlike _ unusualPath :=
    ⟨_, _, plain, unusual, by decide⟩
  refine ⟨alike, ?_⟩
  rw [(ofText_iff_grammar _).2.2 _ alike]
  rfl

end ScheduledJobs.JobId
