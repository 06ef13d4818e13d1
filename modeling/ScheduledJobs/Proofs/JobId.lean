import ScheduledJobs.Proofs.JobId.Grammar

/-!
# Ids are read back

The written form of an id denotes the id exactly when its parts are segments of
a path, and every id that is read has such parts.
-/

namespace ScheduledJobs

open Text

namespace JobId

/-- Whether all parts of the id are segments of a path. -/
structure HasSegments (id : JobId) : Prop where
  subscription : IsSegment id.subscription
  resourceGroup : IsSegment id.resourceGroup
  collection : IsSegment id.collection
  name : IsSegment id.name

/-- Whether no part of the id holds a slash. -/
structure IsSlashFree (id : JobId) : Prop where
  subscription : '/' ∉ id.subscription.toList
  resourceGroup : '/' ∉ id.resourceGroup.toList
  collection : '/' ∉ id.collection.toList
  name : '/' ∉ id.name.toList

theorem HasSegments.isSlashFree {id : JobId} (segments : id.HasSegments) :
    id.IsSlashFree where
  subscription := segments.subscription.2
  resourceGroup := segments.resourceGroup.2
  collection := segments.collection.2
  name := segments.name.2

/-- The segments of the written form, when the parts have no slashes. -/
def path (id : JobId) : List (List Char) :=
  ["subscriptions".toList, id.subscription.toList, "resourceGroups".toList,
    id.resourceGroup.toList, "providers".toList, "Microsoft.Scheduler".toList,
    "jobCollections".toList, id.collection.toList, "jobs".toList,
    id.name.toList]

theorem utf8ByteSize_text (id : JobId) :
    id.text.utf8ByteSize =
      "/subscriptions/".utf8ByteSize + id.subscription.utf8ByteSize +
        "/resourceGroups/".utf8ByteSize + id.resourceGroup.utf8ByteSize +
        "/providers/Microsoft.Scheduler/jobCollections/".utf8ByteSize +
        id.collection.utf8ByteSize + "/jobs/".utf8ByteSize +
        id.name.utf8ByteSize := by
  unfold text
  simp only [String.utf8ByteSize_append]

theorem toList_text (id : JobId) :
    id.text.toList = '/' :: joinSegments '/' id.path := by
  unfold text path
  simp only [String.toList_append, joinSegments_cons_cons,
    joinSegments_singleton, List.append_assoc]
  simp

theorem not_mem_of_mem_path {id : JobId} (slashFree : id.IsSlashFree)
    {segment : List Char} (member : segment ∈ id.path) : '/' ∉ segment := by
  simp only [path, List.mem_cons, List.not_mem_nil, or_false] at member
  rcases member with
    rfl | rfl | rfl | rfl | rfl | rfl | rfl | rfl | rfl | rfl
  · decide
  · exact slashFree.subscription
  · decide
  · exact slashFree.resourceGroup
  · decide
  · decide
  · decide
  · exact slashFree.collection
  · decide
  · exact slashFree.name

/-- No two ids have the same written form, when one of them has no slashes in
its parts. -/
theorem text_injective {first second : JobId} (slashFree : first.IsSlashFree)
    (equal : first.text = second.text) : first = second := by
  have characters := congrArg String.toList equal
  rw [toList_text, toList_text] at characters
  have paths : first.path = second.path :=
    joinSegments_injective rfl (fun _ => not_mem_of_mem_path slashFree)
      (List.cons.inj characters).2
  obtain ⟨subscription, resourceGroup, collection, name⟩ := first
  obtain ⟨_, _, _, _⟩ := second
  simpa [path, String.toList_inj] using paths

/-- The keys and values of the written form. -/
def pairs (id : JobId) : List (String × String) :=
  [("subscriptions", id.subscription), ("resourceGroups", id.resourceGroup),
    ("providers", "Microsoft.Scheduler"), ("jobCollections", id.collection),
    ("jobs", id.name)]

theorem text_eq_pathText (id : JobId) : id.text = pathText id.pairs := by
  have nonempty : id.pairs ≠ [] := List.cons_ne_nil _ _
  have keysAndValues : keysAndValues (characters id.pairs) = id.path := rfl
  apply String.toList_inj.mp
  rw [toList_text, toList_pathText nonempty, keysAndValues]

theorem isPath_text {id : JobId} (segments : id.HasSegments) :
    IsPath id.text id.pairs where
  nonempty := List.cons_ne_nil _ _
  areSegments := by
    simp only [pairs, List.forall_mem_cons]
    exact ⟨⟨by decide, segments.subscription⟩,
      ⟨by decide, segments.resourceGroup⟩, by decide,
      ⟨by decide, segments.collection⟩, ⟨by decide, segments.name⟩, nofun⟩
  written := ⟨0, by rw [text_eq_pathText, List.replicate_zero, List.append_nil]⟩

theorem hasParts_pairs (id : JobId) : HasParts id.pairs id where
  subscription := ⟨[], _, _, rfl, by decide, occurs_nil _⟩
  resourceGroup := by
    refine ⟨[_], _, _, rfl, by decide, ?_⟩
    simp only [occurs_cons, occurs_nil]
    decide
  collection := by
    refine ⟨[_, _, _], _, _, rfl, by decide, ?_⟩
    simp only [occurs_cons, occurs_nil]
    decide
  name := by
    refine ⟨[_, _, _, _], _, _, rfl, by decide, ?_⟩
    simp only [occurs_cons, occurs_nil]
    decide

/-- The written form of an id denotes the id when its parts are segments. -/
theorem ofText_text {id : JobId} (segments : id.HasSegments) :
    ofText id.text = .ok id :=
  ofText_eq_iff_reads.mpr (.denotes (isPath_text segments) (hasParts_pairs id))

theorem IsFirstUnder.isSegment {text key value : String}
    {pairs : List (String × String)} (first : IsFirstUnder key pairs value)
    (path : IsPath text pairs) : IsSegment value := by
  obtain ⟨before, name, after, rfl, -, -⟩ := first
  exact (path.areSegments (name, value) (by simp)).2

theorem hasSegments_of_ofText {text : String} {id : JobId}
    (read : ofText text = .ok id) : id.HasSegments := by
  cases ofText_eq_iff_reads.mp read with
  | denotes path parts =>
      exact {
        subscription := parts.subscription.isSegment path
        resourceGroup := parts.resourceGroup.isSegment path
        collection := parts.collection.isSegment path
        name := parts.name.isSegment path }

/-- Ids are read back from their written form exactly when their parts are
segments of a path, and so are all ids that are read from any text. -/
theorem ofText_text_iff_hasSegments :
    (∀ id : JobId, ofText id.text = .ok id ↔ id.HasSegments) ∧
    ∀ text id, ofText text = .ok id →
      id.HasSegments ∧ ofText id.text = .ok id := by
  refine ⟨fun id => ⟨hasSegments_of_ofText, ofText_text⟩, ?_⟩
  intro text id read
  have segments := hasSegments_of_ofText read
  exact ⟨segments, ofText_text segments⟩

/-- The id of the unusual path is read back from its own written form. -/
theorem ofText_text_of_unusualPath :
    ofText unusualPath = .ok ⟨"s", "g", "c", "n"⟩ ∧
      HasSegments ⟨"s", "g", "c", "n"⟩ ∧
      ofText (text ⟨"s", "g", "c", "n"⟩) = .ok ⟨"s", "g", "c", "n"⟩ := by
  have read : ofText unusualPath = .ok ⟨"s", "g", "c", "n"⟩ := rfl
  exact ⟨read, ofText_text_iff_hasSegments.2 _ _ read⟩

end JobId

end ScheduledJobs
