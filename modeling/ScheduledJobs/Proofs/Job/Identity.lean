import ScheduledJobs.Job.Basic
import ScheduledJobs.Proofs.Job.Validation
import ScheduledJobs.Proofs.JobId

/-!
# Places of jobs

The address and the id of a job determine its place when its resource group,
collection and name have no slashes.
-/

namespace ScheduledJobs

open Text

namespace Job

/-- The id of the job in a subscription. -/
def idIn (subscription : String) (job : Job) : JobId where
  subscription := subscription
  resourceGroup := job.resourceGroup
  collection := job.collection
  name := job.name

/-- Whether the place of the job is given without slashes. -/
structure IsSlashFree (job : Job) : Prop where
  resourceGroup : '/' ∉ job.resourceGroup.toList
  collection : '/' ∉ job.collection.toList
  name : '/' ∉ job.name.toList

/-- Whether two jobs have the same resource group, collection and name. -/
structure SamePlace (first second : Job) : Prop where
  resourceGroup : first.resourceGroup = second.resourceGroup
  collection : first.collection = second.collection
  name : first.name = second.name

theorem SamePlace.idIn_eq {first second : Job} (same : first.SamePlace second)
    (subscription : String) :
    first.idIn subscription = second.idIn subscription := by
  simp only [idIn, same.resourceGroup, same.collection, same.name]

theorem samePlace_of_idIn_eq {first second : Job}
    {subscription other : String}
    (equal : first.idIn subscription = second.idIn other) :
    first.SamePlace second where
  resourceGroup := congrArg JobId.resourceGroup equal
  collection := congrArg JobId.collection equal
  name := congrArg JobId.name equal

theorem isSlashFree_idIn {job : Job} (slashFree : job.IsSlashFree)
    {subscription : String} (isSegment : IsSegment subscription) :
    (job.idIn subscription).IsSlashFree where
  subscription := isSegment.2
  resourceGroup := slashFree.resourceGroup
  collection := slashFree.collection
  name := slashFree.name

theorem isSlashFree_of_hasSegments {job : Job} {subscription : String}
    (segments : (job.idIn subscription).HasSegments) : job.IsSlashFree where
  resourceGroup := segments.resourceGroup.2
  collection := segments.collection.2
  name := segments.name.2

/-- The id of a job that is accepted is read back when its place is given
without slashes. -/
theorem hasSegments_idIn {job : Job} (accepted : job.IsAccepted)
    (slashFree : job.IsSlashFree) {subscription : String}
    (isSegment : IsSegment subscription) :
    (job.idIn subscription).HasSegments where
  subscription := isSegment
  resourceGroup :=
    ⟨ne_empty_of_not_isBlankText accepted.resourceGroup,
      slashFree.resourceGroup⟩
  collection :=
    ⟨ne_empty_of_not_isBlankText accepted.collection, slashFree.collection⟩
  name := ⟨ne_empty_of_isValidName accepted.name, slashFree.name⟩

/-- The texts that are joined to the address. -/
def path (job : Job) : List (List Char) :=
  [job.resourceGroup.toList, job.collection.toList, job.name.toList]

theorem toList_address (job : Job) :
    job.address.toList = joinSegments '/' job.path := by
  unfold address path
  simp only [String.toList_append, joinSegments_cons_cons,
    joinSegments_singleton, List.append_assoc]
  simp

theorem not_mem_of_mem_path {job : Job} (slashFree : job.IsSlashFree)
    {segment : List Char} (member : segment ∈ job.path) : '/' ∉ segment := by
  simp only [path, List.mem_cons, List.not_mem_nil, or_false] at member
  rcases member with rfl | rfl | rfl
  · exact slashFree.resourceGroup
  · exact slashFree.collection
  · exact slashFree.name

/-- No two places have the same address, when one of them is given without
slashes. -/
theorem samePlace_of_address_eq {first second : Job}
    (slashFree : first.IsSlashFree) (equal : first.address = second.address) :
    first.SamePlace second := by
  have characters := congrArg String.toList equal
  rw [toList_address, toList_address] at characters
  have paths : first.path = second.path :=
    joinSegments_injective rfl (fun _ => not_mem_of_mem_path slashFree)
      characters
  simp only [path, List.cons.injEq, String.toList_inj, and_true] at paths
  obtain ⟨resourceGroup, collection, name⟩ := paths
  exact ⟨resourceGroup, collection, name⟩

end Job

end ScheduledJobs
