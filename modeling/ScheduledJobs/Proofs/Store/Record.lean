import ScheduledJobs.Proofs.Job.RoundTrip
import ScheduledJobs.Proofs.Service.Emulator
import ScheduledJobs.Store.Record

/-! # Records under addresses -/

namespace ScheduledJobs.Record

open Document Text

theorem key_injective {first second : String}
    (equal : key first = key second) : first = second :=
  Store.namespaced_injective equal

theorem key_ne_nil (address : String) : key address ≠ [] :=
  Store.namespaced_ne_nil "jobs" address

theorem fitsIn_toValue (record : Record) : record.toValue.FitsIn 5 := by
  apply Value.fitsIn_ofFields
  simp [Value.fitsIn_text, Value.fitsIn_ofInstant, Job.fitsIn_toValue]

theorem finish_id {find : String → Option Value} {record : Record}
    (finished : form.finish find = .ok record) :
    (Form.required "id" Reader.text).finish find = .ok record.id := by
  obtain ⟨withTime, build, rest⟩ := eq_ok_of_bind_eq_ok finished
  obtain ⟨syncedAt, -, isRecord⟩ := eq_ok_of_bind_eq_ok rest
  obtain ⟨withJob, build, rest⟩ := eq_ok_of_bind_eq_ok build
  obtain ⟨observed, -, isWithTime⟩ := eq_ok_of_bind_eq_ok rest
  obtain ⟨id, isId, rfl⟩ := eq_ok_of_map_eq_ok build
  obtain rfl := Except.ok.inj isWithTime
  obtain rfl := Except.ok.inj isRecord
  exact isId

theorem id_of_read_toValue {record found : Record}
    (reads : read record.toValue = .ok found) : found.id = record.id := by
  have finished := Form.finish_of_readWith_ofFields (by simp) .refused reads
  exact (Except.ok.inj (finish_id finished)).symm

theorem read_observed_of_read {value : Value} {record : Record}
    (reads : read value = .ok record) :
    ∃ value, Job.read value = .ok record.observed := by
  obtain ⟨_, _, rest₁, -, rfl⟩ := (Form.builds_of_readWith reads).of_seq
  obtain ⟨_, _, rest₂, observedBuilt, rfl⟩ := rest₁.of_seq
  obtain ⟨_, -, rfl⟩ := rest₂.of_map
  exact observedBuilt.of_required

/-- The record without the bodies that are empty. -/
def withoutEmptyBodies (record : Record) : Record :=
  { record with observed := record.observed.withoutEmptyBodies }

theorem withoutEmptyBodies_eq_self_iff {record : Record} :
    record.withoutEmptyBodies = record ↔ record.observed.HasNoEmptyBody := by
  obtain ⟨id, observed, syncedAt⟩ := record
  simp only [withoutEmptyBodies, mk.injEq, true_and, and_true,
    Job.withoutEmptyBodies_eq_self_iff]

theorem read_toValue_eq_withoutEmptyBodies {record : Record}
    (wellFormed : record.observed.WellFormed) :
    read record.toValue = .ok record.withoutEmptyBodies := by
  obtain ⟨id, observed, syncedAt⟩ := record
  have observedRead := Job.read_toValue_eq_withoutEmptyBodies wellFormed
  refine Form.readWith_ofFields (by simp) ?_ .refused
  refine .seq (.seq (.map ?_ mk) ?_) ?_
  · exact .requiredText (by simp)
  · exact .required (by simp) observedRead
  · exact .required (by simp) (Reader.recovers_instant syncedAt).reads

theorem load_eq_withoutEmptyBodies {directory : Directory} {address : String}
    {record : Record} (wellFormed : record.observed.WellFormed)
    (found : Store.get? directory (key address) =
      some (Utf8.encode (Json.render record.toValue))) :
    load directory address = .ok (some record.withoutEmptyBodies) :=
  Store.load_of_get? found (record.fitsIn_toValue.mono (by decide))
    (read_toValue_eq_withoutEmptyBodies wellFormed)

theorem load_of_get? {directory : Directory} {address : String}
    {record : Record} (isRead : record.observed.IsRead)
    (found : Store.get? directory (key address) =
      some (Utf8.encode (Json.render record.toValue))) :
    load directory address = .ok (some record) := by
  rw [load_eq_withoutEmptyBodies isRead.wellFormed found,
    withoutEmptyBodies_eq_self_iff.mpr isRead.hasNoEmptyBody]

theorem load_congr {first second : Directory} {address : String}
    (same : Store.get? second (key address) =
      Store.get? first (key address)) :
    load second address = load first address := by
  simp only [load, Store.load, same]

theorem load_of_get?_eq_none {directory : Directory} {address : String}
    (missing : Store.get? directory (key address) = none) :
    load directory address = .ok none := by
  simp only [load, Store.load, missing]

/-- The store after a record has been saved under an address. -/
def saved (directory : Directory) (address : String) (record : Record) :
    Directory :=
  Store.written directory (key address)
    (Utf8.encode (Json.render record.toValue))

theorem get?_saved_self {directory : Directory} {address : String}
    (fits : Store.Fits directory (key address)) (record : Record) :
    Store.get? (saved directory address record) (key address) =
      some (Utf8.encode (Json.render record.toValue)) :=
  Store.get?_written_self fits _

theorem save_of_isFree {directory : Directory} {address : String}
    (free : Store.IsFree directory (key address))
    (fits : Store.Fits directory (key address)) (record : Record) :
    save directory address record =
      (.ok (), saved directory address record) := by
  rw [save, Store.save, Store.put_of_isFree free (key_ne_nil address) fits,
    saved]

theorem save_of_fits {directory : Directory}
    (noFolder : directory.HasNoFolder) {address : String}
    (fits : Store.Fits directory (key address)) (record : Record) :
    save directory address record =
      (.ok (), saved directory address record) :=
  save_of_isFree (Store.isFree_of_hasNoFolder noFolder _) fits record

theorem load_saved {directory : Directory} {address : String}
    (fits : Store.Fits directory (key address)) (record : Record)
    (wellFormed : record.observed.WellFormed) :
    load (saved directory address record) address =
      .ok (some record.withoutEmptyBodies) :=
  load_eq_withoutEmptyBodies wellFormed (get?_saved_self fits record)

theorem id_of_load_saved {directory : Directory} {address : String}
    (fits : Store.Fits directory (key address)) {record found : Record}
    (loaded : load (saved directory address record) address =
      .ok (some found)) : found.id = record.id := by
  have plain : record.toValue.FitsIn Json.depthLimit :=
    record.fitsIn_toValue.mono (by decide)
  have present := get?_saved_self fits record
  have parsed := Json.ofOctets?_render plain.plain plain.shallow
  simp only [load, Store.load, present, parsed, Option.map_some] at loaded
  cases reads : read record.toValue with
  | error error =>
      rw [reads] at loaded
      cases loaded
  | ok readBack =>
      rw [reads] at loaded
      obtain rfl := Option.some.inj (Except.ok.inj loaded)
      exact id_of_read_toValue reads

/-- A record that is found after another one has been saved has the same id, or
was there before. -/
theorem id_of_load_save {directory : Directory}
    (noFolder : directory.HasNoFolder) {address other : String}
    {record found : Record}
    (loaded : load (save directory address record).2 other =
      .ok (some found)) :
    (other = address ∧ found.id = record.id) ∨
      load directory other = .ok (some found) := by
  by_cases fits : Store.Fits directory (key address)
  · rw [save_of_fits noFolder fits] at loaded
    by_cases same : other = address
    · subst same
      exact .inl ⟨rfl, id_of_load_saved fits loaded⟩
    · have different : key other ≠ key address := fun equal =>
        same (key_injective equal)
      have kept := Store.get?_written_of_ne different directory
        (Utf8.encode (Json.render record.toValue))
      exact .inr (load_congr kept ▸ loaded)
  · have put := Store.put_of_not_fits (key_ne_nil address) fits
      (Utf8.encode (Json.render record.toValue))
    rw [save, Store.save, put] at loaded
    exact .inr loaded

/-- A record that is found after another one has been forgotten was there
before. -/
theorem load_of_load_forget {directory : Directory} {address other : String}
    {found : Record}
    (loaded : load (forget directory address).2 other = .ok (some found)) :
    load directory other = .ok (some found) := by
  by_cases same : other = address
  · subst same
    have missing := Store.get?_delete_self directory (key other)
    rw [forget, load_of_get?_eq_none missing] at loaded
    cases loaded
  · have different : key other ≠ key address := fun equal =>
      same (key_injective equal)
    have kept := Store.get?_delete_of_ne different directory
    exact load_congr kept ▸ loaded

end ScheduledJobs.Record
