import ScheduledJobs.Proofs.Definition.Plain
import ScheduledJobs.Proofs.Definition.RoundTrip
import ScheduledJobs.Proofs.Exchange.Requests
import ScheduledJobs.Proofs.JobId
import ScheduledJobs.Proofs.Store.Basic
import ScheduledJobs.Proofs.Text.Octets
import ScheduledJobs.Service.Emulator
import ScheduledJobs.Store.Record

/-!
# The emulator keeps definitions

A definition that the emulator accepts is found again under its id, and one that
it refuses leaves the store alone.
-/

namespace ScheduledJobs

open Definition Document Text

namespace Store

theorem namespaced_injective {space first second : String}
    (equal : namespaced space first = namespaced space second) :
    first = second := by
  have texts := congrArg String.toList (Utf8.encode_injective equal)
  simp only [String.toList_append, List.append_cancel_left_eq] at texts
  exact String.toList_inj.mp texts

theorem namespaced_ne_nil (space key : String) :
    namespaced space key ≠ [] := by
  intro empty
  have text : space ++ ":" ++ key = "" := Utf8.encode_injective empty
  have characters := congrArg String.toList text
  simp at characters

end Store

namespace Emulator

theorem key_ne_nil (id : JobId) : key id ≠ [] :=
  Store.namespaced_ne_nil "remote" id.text

theorem length_key (id : JobId) :
    (key id).length = 90 + id.subscription.utf8ByteSize +
      id.resourceGroup.utf8ByteSize + id.collection.utf8ByteSize +
      id.name.utf8ByteSize := by
  have fixed : "remote".utf8ByteSize = 6 ∧ ":".utf8ByteSize = 1 ∧
      "/subscriptions/".utf8ByteSize = 15 ∧
      "/resourceGroups/".utf8ByteSize = 16 ∧
      "/providers/Microsoft.Scheduler/jobCollections/".utf8ByteSize = 46 ∧
      "/jobs/".utf8ByteSize = 6 := by
    decide +kernel
  have octets : (key id).length = "remote".utf8ByteSize + ":".utf8ByteSize +
      id.text.utf8ByteSize := by
    have text := Utf8.length_encode ("remote" ++ ":" ++ id.text)
    rwa [String.utf8ByteSize_append, String.utf8ByteSize_append] at text
  have parts := id.utf8ByteSize_text
  omega

/-- The emulator tells an id without slashes in its parts from every other
one. -/
theorem key_injective {first second : JobId} (slashFree : first.IsSlashFree)
    (equal : key first = key second) : first = second :=
  JobId.text_injective slashFree (Store.namespaced_injective equal)

theorem key_ne_recordKey (id : JobId) (address : String) :
    key id ≠ Record.key address := by
  intro equal
  have texts := congrArg String.toList (Utf8.encode_injective equal)
  simp only [String.toList_append, List.append_assoc] at texts
  have begins : 'r' = 'j' := congrArg (List.headD · ' ') texts
  exact absurd begins (by decide)

theorem isCanonical_sealedAction {action : Action}
    (canonical : action.IsCanonical) (name : String) (expiry : Instant) :
    (sealedAction name expiry action).IsCanonical where
  kind := canonical.kind
  retryPolicy := canonical.retryPolicy
  errorAction := by
    intro error isError
    obtain ⟨given, isGiven, rfl⟩ := Option.map_eq_some_iff.mp isError
    exact canonical.errorAction given isGiven

theorem isCanonical_stored {definition : Definition}
    (canonical : definition.IsCanonical) (id : JobId) (expiry : Instant) :
    (stored id expiry definition).IsCanonical := by
  intro properties isStored action isAction
  obtain rfl := Option.some.inj isStored
  obtain ⟨given, isGiven, rfl⟩ := Option.map_eq_some_iff.mp isAction
  cases properties : definition.properties with
  | none =>
      rw [properties] at isGiven
      cases isGiven
  | some found =>
      rw [properties] at isGiven
      exact isCanonical_sealedAction
        (canonical found properties given isGiven) id.name expiry

theorem requests_stored (id : JobId) (expiry : Instant)
    (definition : Definition) :
    (stored id expiry definition).requests =
      definition.requests.map (sealedRequest id.name expiry) := by
  have request (action? : Option Action) :
      (action?.map (sealedAction id.name expiry)).bind Action.request =
        (action?.bind Action.request).map (sealedRequest id.name expiry) := by
    cases action? <;> rfl
  have error (action? : Option Action) :
      ((action?.map (sealedAction id.name expiry)).bind
          Action.errorAction).bind ErrorAction.request =
        ((action?.bind Action.errorAction).bind ErrorAction.request).map
          (sealedRequest id.name expiry) := by
    rcases action? with _ | ⟨kind, request, retryPolicy, _ | errorAction⟩ <;>
      rfl
  obtain ⟨given, name, resourceType, properties⟩ := definition
  cases properties with
  | none => rfl
  | some properties =>
      simp only [requests, stored, storedProperties, Option.getD_some,
        Option.bind_some, request, error, Option.toList_map, List.map_append]

theorem needsExpiry_eq_any_requests (definition : Definition) :
    needsExpiry definition = definition.requests.any sendsCertificate :=
  rfl

/-- The store after a definition has been saved under an id. -/
def saved (directory : Directory) (id : JobId) (definition : Definition) :
    Directory :=
  Store.written directory (key id)
    (Utf8.encode (Json.render definition.toValue))

theorem isFree_saved (directory : Directory) (id : JobId)
    (definition : Definition) :
    Store.IsFree (saved directory id definition) (key id) :=
  Store.isFree_written directory _ _

theorem saved_saved (directory : Directory) (id : JobId)
    (definition other : Definition) :
    saved (saved directory id definition) id other =
      saved directory id other :=
  Store.written_written directory _ _ _

theorem load_of_get? {directory : Directory} {id : JobId}
    {definition : Definition}
    (found : Store.get? directory (key id) =
      some (Utf8.encode (Json.render definition.toValue))) :
    Store.load Definition.read directory (key id) =
      .ok (some definition.respelled) :=
  Store.load_of_get? found (definition.fitsIn_toValue.mono (by decide))
    (read_toValue_eq_respelled definition)

theorem load_of_isCanonical {directory : Directory} {id : JobId}
    {definition : Definition} (canonical : definition.IsCanonical)
    (found : Store.get? directory (key id) =
      some (Utf8.encode (Json.render definition.toValue))) :
    Store.load Definition.read directory (key id) =
      .ok (some definition) :=
  Store.load_of_get? found (definition.fitsIn_toValue.mono (by decide))
    (read_toValue canonical)

theorem get_of_load {directory : Directory} {id : JobId}
    {definition : Definition}
    (loaded : Store.load Definition.read directory (key id) =
      .ok (some definition)) (root : String) :
    get root id directory = (.ok definition, directory) := by
  unfold get
  simp only [loaded]

theorem get_saved {directory : Directory} {id : JobId}
    (fits : Store.Fits directory (key id)) {definition : Definition}
    (canonical : definition.IsCanonical) (root : String) :
    get root id (saved directory id definition) =
      (.ok definition, saved directory id definition) := by
  have found : Store.get? (saved directory id definition) (key id) =
      some (Utf8.encode (Json.render definition.toValue)) :=
    Store.get?_written_self fits _
  exact get_of_load (load_of_isCanonical canonical found) root

theorem get_eq_notFound {directory : Directory} {id : JobId}
    (missing : Store.get? directory (key id) = none) (root : String) :
    get root id directory = (.error .notFound, directory) := by
  unfold get Store.load
  simp only [missing]

/-- Whether a certificate that is sent in the definition can be given a date
on which it expires. -/
def CanExpire (now : Instant) (definition : Definition) : Prop :=
  (now.laterByDays? certificateDays).isSome ∨ needsExpiry definition = false

instance (now : Instant) (definition : Definition) :
    Decidable (CanExpire now definition) :=
  inferInstanceAs (Decidable (_ ∨ _))

theorem not_canExpire_iff {now : Instant} {definition : Definition} :
    ¬CanExpire now definition ↔
      ((now.laterByDays? certificateDays).isNone &&
        needsExpiry definition) = true := by
  unfold CanExpire
  cases now.laterByDays? certificateDays <;> simp

/-- What is stored of a definition at the given time. -/
def storedAt (id : JobId) (now : Instant) (definition : Definition) :
    Definition :=
  stored id ((now.laterByDays? certificateDays).getD now) definition

theorem isCanonical_storedAt {definition : Definition}
    (canonical : definition.IsCanonical) (id : JobId) (now : Instant) :
    (storedAt id now definition).IsCanonical :=
  isCanonical_stored canonical id _

theorem createOrUpdate_of_isFree {directory : Directory} {id : JobId}
    (free : Store.IsFree directory (key id))
    (fits : Store.Fits directory (key id)) {now : Instant}
    {definition : Definition} (canExpire : CanExpire now definition)
    (root : String) :
    createOrUpdate root now id definition directory =
      (.ok (storedAt id now definition),
        saved directory id (storedAt id now definition)) := by
  have inCalendar := mt not_canExpire_iff.mpr (not_not_intro canExpire)
  have put := Store.put_of_isFree free (key_ne_nil id) fits
    (Utf8.encode (Json.render (storedAt id now definition).toValue))
  simp only [createOrUpdate, if_neg inCalendar, Store.save, storedAt] at put ⊢
  rw [put]
  rfl

theorem createOrUpdate_of_fits {directory : Directory}
    (noFolder : directory.HasNoFolder) {id : JobId}
    (fits : Store.Fits directory (key id)) {now : Instant}
    {definition : Definition} (canExpire : CanExpire now definition)
    (root : String) :
    createOrUpdate root now id definition directory =
      (.ok (storedAt id now definition),
        saved directory id (storedAt id now definition)) :=
  createOrUpdate_of_isFree (Store.isFree_of_hasNoFolder noFolder _) fits
    canExpire root

theorem eq_saved_of_createOrUpdate {directory next : Directory} {root : String}
    {now : Instant} {id : JobId} {definition kept : Definition}
    (done : createOrUpdate root now id definition directory =
      (.ok kept, next)) :
    Store.Fits directory (key id) ∧ kept = storedAt id now definition ∧
      next = saved directory id (storedAt id now definition) := by
  unfold createOrUpdate at done
  simp only [Store.save] at done
  split at done
  · cases done
  · split at done
    · next put =>
        obtain ⟨isKept, rfl⟩ := Prod.mk.inj done
        obtain ⟨fits, isWritten⟩ := Store.eq_written_of_put put
        exact ⟨fits, (Except.ok.inj isKept).symm, isWritten⟩
    · cases done

theorem createOrUpdate_of_not_fits {directory : Directory} {id : JobId}
    {now : Instant} {definition : Definition}
    (refused : ¬(Store.Fits directory (key id) ∧ CanExpire now definition))
    (root : String) :
    ∃ error, createOrUpdate root now id definition directory =
      (.error error, directory) := by
  by_cases canExpire : CanExpire now definition
  · have inCalendar := mt not_canExpire_iff.mpr (not_not_intro canExpire)
    have tooLong : ¬Store.Fits directory (key id) := fun fits =>
      refused ⟨fits, canExpire⟩
    have put := Store.put_of_not_fits (key_ne_nil id) tooLong
      (Utf8.encode (Json.render (storedAt id now definition).toValue))
    simp only [createOrUpdate, if_neg inCalendar, Store.save,
      storedAt] at put ⊢
    rw [put]
    exact ⟨_, rfl⟩
  · have beyond := not_canExpire_iff.mp canExpire
    simp only [createOrUpdate, if_pos beyond]
    exact ⟨_, rfl⟩

theorem get_snd (root : String) (id : JobId) (directory : Directory) :
    (Emulator.get root id directory).2 = directory := by
  unfold Emulator.get
  split <;> rfl

theorem delete_eq (id : JobId) (directory : Directory) :
    Emulator.delete id directory =
      (if (Store.delete directory (key id)).1 then .ok ()
        else .error .notFound,
        (Store.delete directory (key id)).2) := by
  unfold Emulator.delete
  rcases Store.delete directory (key id) with ⟨_ | _, next⟩ <;> rfl

theorem delete_snd (id : JobId) (directory : Directory) :
    (Emulator.delete id directory).2 =
      (Store.delete directory (key id)).2 := by
  rw [delete_eq]

end Emulator

end ScheduledJobs
