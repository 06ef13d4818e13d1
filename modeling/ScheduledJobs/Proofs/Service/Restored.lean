import ScheduledJobs.Proofs.Definition.Reading
import ScheduledJobs.Proofs.Service.Contents
import ScheduledJobs.Proofs.Service.Days
import ScheduledJobs.Proofs.Service.Emulator

/-!
# Definitions that are put back

A definition that is put back as it was found changes nothing, at whatever time
that happens.
-/

namespace ScheduledJobs.Emulator

open Definition Document Text

variable {name : String} {expiry : Instant}

/-- Without its secrets an authentication has no certificate whose details could
be filled in. -/
theorem withDetails_withoutSecrets (authentication : Authentication) :
    withDetails name expiry authentication.withoutSecrets =
      authentication.withoutSecrets := by
  cases authentication <;> rfl

theorem sealedRequest_sealedRequest (other : String) (later : Instant)
    (request : Request) :
    sealedRequest other later (sealedRequest name expiry request) =
      sealedRequest name expiry request := by
  simp [sealedRequest, Function.comp_def, withDetails_withoutSecrets]

theorem sendsCertificate_sealedRequest (request : Request) :
    sendsCertificate (sealedRequest name expiry request) = false := by
  obtain ⟨_ | authentication, uri, method, body, headers⟩ := request
  · rfl
  · simp only [sendsCertificate, sealedRequest, Option.map_some]
    cases withDetails name expiry authentication <;> rfl

theorem sealedErrorAction_sealedErrorAction (other : String) (later : Instant)
    (action : ErrorAction) :
    sealedErrorAction other later (sealedErrorAction name expiry action) =
      sealedErrorAction name expiry action := by
  simp [sealedErrorAction, Function.comp_def, sealedRequest_sealedRequest]

theorem sealedAction_sealedAction (other : String) (later : Instant)
    (action : Action) :
    sealedAction other later (sealedAction name expiry action) =
      sealedAction name expiry action := by
  simp [sealedAction, Function.comp_def, sealedRequest_sealedRequest,
    sealedErrorAction_sealedErrorAction]

theorem storedProperties_storedProperties (other : String) (later : Instant)
    (properties : Properties) :
    storedProperties other later (storedProperties name expiry properties) =
      storedProperties name expiry properties := by
  simp [storedProperties, Function.comp_def, sealedAction_sealedAction,
    lowerRepetition_lowerRepetition]

/-- What is stored of a definition is stored again as it is, whenever
certificates would expire then. -/
theorem stored_stored (id : JobId) (later : Instant)
    (definition : Definition) :
    stored id later (stored id expiry definition) =
      stored id expiry definition := by
  simp only [stored, Option.getD_some, storedProperties_storedProperties]

theorem needsExpiry_stored (id : JobId) (definition : Definition) :
    needsExpiry (stored id expiry definition) = false := by
  rw [needsExpiry_eq_any_requests, requests_stored, List.any_map,
    List.any_eq_false]
  intro request _
  simp [sendsCertificate_sealedRequest]

/-- A definition that has been read and stored is found as it was answered.
Putting it back at any later time, and even at the end of the calendar, gives
the same answer and leaves every octet of the store as it is. -/
theorem createOrUpdate_kept {value : Value} {definition kept : Definition}
    (reads : Definition.read value = .ok definition) {root : String}
    {now : Instant} {id : JobId} {directory next : Directory}
    (done : createOrUpdate root now id definition directory =
      (.ok kept, next)) :
    get root id next = (.ok kept, next) ∧
      ∀ later, createOrUpdate root later id kept next = (.ok kept, next) := by
  obtain ⟨fits, rfl, rfl⟩ := eq_saved_of_createOrUpdate done
  have canonical := isCanonical_storedAt (isCanonical_of_read reads) id now
  refine ⟨get_saved fits canonical root, ?_⟩
  intro later
  have same : storedAt id later (storedAt id now definition) =
      storedAt id now definition :=
    stored_stored id _ definition
  have canExpire : CanExpire later (storedAt id now definition) :=
    .inr (needsExpiry_stored id definition)
  have stillFits : Store.Fits
      (saved directory id (storedAt id now definition)) (key id) :=
    fits.congr (Store.nameLimit_written directory _ _)
  rw [createOrUpdate_of_isFree (isFree_saved directory id _) stillFits
    canExpire root, same, saved_saved]

/-- A definition with a certificate that is sent, without a state, and with a
day in capital letters. -/
def enrolled : Definition where
  properties := some {
    action := some { request := some {
      authentication := some (.certificate { pfx := some "MIIB" }) } }
    repetition := some { timetable := some {
      weekDays := some ["MONDAY"] } } }

/-- The definition is stored at the epoch, is put back at the last moment of
the calendar, when its certificate could not have been sent, and stays as it
is. -/
theorem createOrUpdate_kept_enrolled :
    let id : JobId := ⟨"main", "group", "daily", "report"⟩
    let done := createOrUpdate "" .epoch id enrolled { nameLimit := 255 }
    let kept := storedAt id .epoch enrolled
    Definition.read enrolled.toValue = .ok enrolled ∧
      done.1 = .ok kept ∧
      ¬CanExpire lastDay enrolled ∧
      createOrUpdate "" lastDay id kept done.2 = (.ok kept, done.2) := by
  intro id done kept
  have reads : Definition.read enrolled.toValue = .ok enrolled := rfl
  have fits : Store.Fits { nameLimit := 255 } (key id) := by
    rw [Store.Fits, length_key]
    decide +kernel
  have stores : done = (.ok kept, done.2) := by
    rw [show done = _ from createOrUpdate_of_fits (.fresh 255) fits
      (by decide +kernel) ""]
  exact ⟨reads, congrArg Prod.fst stores, by decide +kernel,
    (createOrUpdate_kept reads stores).2 lastDay⟩

end ScheduledJobs.Emulator
