import ScheduledJobs.Proofs.Job.Identity
import ScheduledJobs.Proofs.Job.Url
import ScheduledJobs.Service.ResourceManager

/-!
# Requests to the resource manager

A request for a job is about the job exactly when no question mark and no number
sign stands in its place.
-/

namespace ScheduledJobs

open Text

namespace Url

/-- Whether the character ends the path of a resource, after which a query or a
fragment begins. -/
def endsPath (character : Char) : Bool := character == '?' || character == '#'

/-- The resource that a url leads to. -/
def resource (url : String) : List Char :=
  url.toList.takeWhile fun character => !endsPath character

/-- What a url goes on with after its resource. -/
def afterResource (url : String) : List Char :=
  url.toList.dropWhile fun character => !endsPath character

/-- Whether no character of the text ends the path of a resource. -/
def IsOpen (text : String) : Prop :=
  ∀ character ∈ text.toList, endsPath character = false

instance (text : String) : Decidable (IsOpen text) :=
  List.decidableBAll _ text.toList

@[simp] theorem isOpen_append {first second : String} :
    IsOpen (first ++ second) ↔ IsOpen first ∧ IsOpen second := by
  simp only [IsOpen, String.toList_append, List.forall_mem_append]

theorem resource_append {first : String} (isOpen : IsOpen first)
    (second : String) :
    resource (first ++ second) = first.toList ++ resource second := by
  rw [resource, String.toList_append, List.takeWhile_append_of_pos
    fun character member => by simp [isOpen character member]]
  rfl

theorem afterResource_append {first : String} (isOpen : IsOpen first)
    (second : String) :
    afterResource (first ++ second) = afterResource second := by
  rw [afterResource, String.toList_append, List.dropWhile_append_of_pos
    fun character member => by simp [isOpen character member]]
  rfl

theorem endsPath_of_mem_resource {url : String} {character : Char}
    (member : character ∈ resource url) : endsPath character = false := by
  have all := List.all_takeWhile
    (p := fun character => !endsPath character) (l := url.toList)
  simpa using List.all_eq_true.mp all character member

end Url

namespace JobId

theorem isOpen_text_iff {id : JobId} :
    Url.IsOpen id.text ↔
      Url.IsOpen id.subscription ∧ Url.IsOpen id.resourceGroup ∧
        Url.IsOpen id.collection ∧ Url.IsOpen id.name := by
  have subscriptions : Url.IsOpen "/subscriptions/" := by decide
  have resourceGroups : Url.IsOpen "/resourceGroups/" := by decide
  have collections :
      Url.IsOpen "/providers/Microsoft.Scheduler/jobCollections/" := by decide
  have jobs : Url.IsOpen "/jobs/" := by decide
  unfold text
  simp only [Url.isOpen_append, subscriptions, resourceGroups, collections,
    jobs, true_and, and_true, and_assoc]

end JobId

/-- Whether the base is the endpoint without the slashes at its end. -/
structure IsBase (endpoint base : String) : Prop where
  trimmed : ∃ count,
    endpoint.toList = base.toList ++ List.replicate count '/'
  ending : base.toList.getLast? ≠ some '/'

/-- Whether the url leads to the id below the endpoint of the environment and
goes on with nothing but the version of the interface. -/
structure Environment.Addresses (environment : Environment) (url : String)
    (id : JobId) : Prop where
  resource : ∃ base, IsBase environment.resourceEndpoint base ∧
    Url.resource url = base.toList ++ id.text.toList
  query : Url.afterResource url =
    "?api-version=".toList ++ environment.apiVersion.toList

namespace ResourceManager

theorem isBase_endpoint (environment : Environment) (token : String) :
    IsBase environment.resourceEndpoint
      (withToken environment token).endpoint := by
  obtain ⟨count, trimmed⟩ :=
    exists_eq_trimEnd_append '/' environment.resourceEndpoint.toList
  refine ⟨⟨count, ?_⟩, ?_⟩
  · rwa [withToken, String.toList_ofList]
  · rw [withToken, String.toList_ofList]
    exact getLast?_trimEnd_ne '/' _

theorem isOpen_endpoint {environment : Environment}
    (endpoint : Url.IsOpen environment.resourceEndpoint) (token : String) :
    Url.IsOpen (withToken environment token).endpoint := by
  obtain ⟨count, trimmed⟩ := (isBase_endpoint environment token).trimmed
  intro character member
  exact endpoint character (by simp [trimmed, member])

/-- The query of a url begins where the id ends, when nothing before it ends
the path. -/
theorem addresses_of_isOpen {environment : Environment}
    (endpoint : Url.IsOpen environment.resourceEndpoint) (token : String)
    {id : JobId} (isOpen : Url.IsOpen id.text) :
    environment.Addresses ((withToken environment token).url id) id := by
  have before :
      Url.IsOpen ((withToken environment token).endpoint ++ id.text) :=
    Url.isOpen_append.mpr ⟨isOpen_endpoint endpoint token, isOpen⟩
  have divided : (withToken environment token).url id =
      (withToken environment token).endpoint ++ id.text ++
        ("?api-version=" ++ environment.apiVersion) := by
    rw [url, String.append_assoc]
    rfl
  refine ⟨⟨_, isBase_endpoint environment token, ?_⟩, ?_⟩
  · rw [divided, Url.resource_append before, String.toList_append]
    simp [Url.resource, Url.endsPath]
  · rw [divided, Url.afterResource_append before]
    simp [Url.afterResource, Url.endsPath]

theorem isOpen_of_addresses {environment : Environment} {url : String}
    {id : JobId} (addresses : environment.Addresses url id) :
    Url.IsOpen id.text := by
  obtain ⟨base, -, isResource⟩ := addresses.resource
  intro character member
  have inResource : character ∈ Url.resource url :=
    isResource ▸ List.mem_append_right _ member
  exact Url.endsPath_of_mem_resource inResource

/-- A request is about a job, and about no other resource, exactly when the id
of the job has no question mark and no number sign. -/
theorem addresses_iff_isOpen {environment : Environment}
    (endpoint : Url.IsOpen environment.resourceEndpoint) (token : String)
    {id : JobId} :
    environment.Addresses ((withToken environment token).url id) id ↔
      Url.IsOpen id.text :=
  ⟨isOpen_of_addresses, addresses_of_isOpen endpoint token⟩

/-- The request for a declared job, under a subscription and a name that do not
end its path, is about that job exactly when neither its resource group nor its
collection ends the path. -/
theorem addresses_url_iff {environment : Environment}
    (endpoint : Url.IsOpen environment.resourceEndpoint)
    {subscription : String} (isOpen : Url.IsOpen subscription)
    {job : Job} (name : Url.IsOpen job.name) (token : String) :
    environment.Addresses
        ((withToken environment token).url (job.idIn subscription))
        (job.idIn subscription) ↔
      Url.IsOpen job.resourceGroup ∧ Url.IsOpen job.collection := by
  rw [addresses_iff_isOpen endpoint, JobId.isOpen_text_iff]
  constructor
  · rintro ⟨-, resourceGroup, collection, -⟩
    exact ⟨resourceGroup, collection⟩
  · rintro ⟨resourceGroup, collection⟩
    exact ⟨isOpen, resourceGroup, collection, name⟩

/-- A plain job is asked for under its id. -/
theorem addresses_url_visit :
    Url.IsOpen ({} : Environment).resourceEndpoint ∧ Url.IsOpen "sub-1" ∧
      Url.IsOpen (Job.visit "group" "daily" "report").name ∧
      ({} : Environment).Addresses
        ((withToken {} "token").url
          ((Job.visit "group" "daily" "report").idIn "sub-1"))
        ((Job.visit "group" "daily" "report").idIn "sub-1") := by
  have endpoint : Url.IsOpen ({} : Environment).resourceEndpoint := by decide
  have isOpen : Url.IsOpen "sub-1" := by decide
  have name : Url.IsOpen (Job.visit "group" "daily" "report").name := by
    decide
  exact ⟨endpoint, isOpen, name,
    (addresses_url_iff endpoint isOpen name "token").mpr
      ⟨by decide, by decide⟩⟩

/-- A resource group with a number sign is accepted, and the request for the
job is about another resource. -/
theorem not_addresses_url_visit :
    (Job.visit "group#1" "daily" "report").isValid = true ∧
      IsSegment "sub-1" ∧ Url.IsOpen "sub-1" ∧
      Url.IsOpen ({} : Environment).resourceEndpoint ∧
      ¬({} : Environment).Addresses
        ((withToken {} "token").url
          ((Job.visit "group#1" "daily" "report").idIn "sub-1"))
        ((Job.visit "group#1" "daily" "report").idIn "sub-1") := by
  refine ⟨Job.isValid_visit (by decide) (by decide) (by decide),
    by decide, by decide, by decide, fun addresses => ?_⟩
  have isOpen := JobId.isOpen_text_iff.mp (isOpen_of_addresses addresses)
  exact absurd isOpen.2.1 (by decide)

end ResourceManager

end ScheduledJobs
