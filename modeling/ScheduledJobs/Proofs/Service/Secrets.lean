import ScheduledJobs.Proofs.Definition.Secrets
import ScheduledJobs.Proofs.Service.Emulator

/-! # The emulator keeps no secrets -/

namespace ScheduledJobs.Emulator

open Definition Document Text

theorem holdsNoSecret_sealedRequest {name : String} {expiry : Instant}
    {request : Request} {authentication : Authentication}
    (given : authentication ∈
      (sealedRequest name expiry request).authentication) :
    authentication.HoldsNoSecret := by
  obtain ⟨sent, -, rfl⟩ := Option.map_eq_some_iff.mp given
  exact Authentication.holdsNoSecret_withoutSecrets _

theorem holdsNoSecret_stored (id : JobId) (expiry : Instant)
    (definition : Definition) :
    (stored id expiry definition).HoldsNoSecret := by
  intro request member authentication given
  rw [requests_stored] at member
  obtain ⟨sent, -, rfl⟩ := List.mem_map.mp member
  exact holdsNoSecret_sealedRequest given

/-- The stores that result from calls on the emulator, with any definitions,
when names have at most `limit` octets and nothing is stored at first. -/
inductive Reachable (limit : Nat) : Directory → Prop where
  | fresh : Reachable limit { nameLimit := limit }
  | createOrUpdate {directory : Directory} (root : String) (now : Instant)
      (id : JobId) (definition : Definition)
      (before : Reachable limit directory) :
      Reachable limit
        (Emulator.createOrUpdate root now id definition directory).2
  | get {directory : Directory} (root : String) (id : JobId)
      (before : Reachable limit directory) :
      Reachable limit (Emulator.get root id directory).2
  | delete {directory : Directory} (id : JobId)
      (before : Reachable limit directory) :
      Reachable limit (Emulator.delete id directory).2

/-- Whether the values under all keys of a store without folders are written of
definitions without secrets. -/
structure Seals (directory : Directory) : Prop where
  noFolder : directory.HasNoFolder
  values : ∀ key octets, Store.get? directory key = some octets →
    ∃ definition : Definition, definition.HoldsNoSecret ∧
      octets = Utf8.encode (Json.render definition.toValue)

theorem Seals.fresh (limit : Nat) : Seals { nameLimit := limit } where
  noFolder := .fresh limit
  values := fun key octets found => by
    rw [Store.get?_fresh] at found
    cases found

theorem Seals.saved {directory : Directory} (seals : Seals directory)
    {id : JobId} (fits : Store.Fits directory (key id))
    {definition : Definition} (noSecret : definition.HoldsNoSecret) :
    Seals (Emulator.saved directory id definition) where
  noFolder := Store.hasNoFolder_written seals.noFolder _ _
  values := by
    intro other octets found
    by_cases same : other = key id
    · rw [same, Emulator.saved, Store.get?_written_self fits] at found
      exact ⟨definition, noSecret, (Option.some.inj found).symm⟩
    · rw [Emulator.saved, Store.get?_written_of_ne same] at found
      exact seals.values other octets found

theorem Seals.createOrUpdate {directory : Directory}
    (seals : Seals directory) (root : String) (now : Instant) (id : JobId)
    (definition : Definition) :
    Seals (Emulator.createOrUpdate root now id definition directory).2 := by
  by_cases accepted : Store.Fits directory (key id) ∧ CanExpire now definition
  · rw [createOrUpdate_of_fits seals.noFolder accepted.1 accepted.2]
    exact seals.saved accepted.1 (holdsNoSecret_stored id _ definition)
  · obtain ⟨error, refused⟩ := createOrUpdate_of_not_fits accepted root
    rwa [refused]

theorem Seals.delete {directory : Directory} (seals : Seals directory)
    (id : JobId) : Seals (Emulator.delete id directory).2 where
  noFolder := by
    rw [delete_snd]
    exact Store.hasNoFolder_delete seals.noFolder _
  values := by
    intro other octets found
    rw [delete_snd] at found
    by_cases same : other = key id
    · rw [same, Store.get?_delete_self] at found
      cases found
    · rw [Store.get?_delete_of_ne same] at found
      exact seals.values other octets found

theorem Reachable.seals {limit : Nat} {directory : Directory}
    (reachable : Reachable limit directory) : Seals directory := by
  induction reachable with
  | fresh => exact .fresh limit
  | createOrUpdate root now id definition before ih =>
      exact ih.createOrUpdate root now id definition
  | get root id before ih => rwa [get_snd]
  | delete id before ih => exact ih.delete id

theorem Seals.holdsNoSecret_of_get {directory next : Directory}
    (seals : Seals directory) {root : String} {id : JobId}
    {definition : Definition}
    (got : Emulator.get root id directory = (.ok definition, next)) :
    definition.HoldsNoSecret := by
  cases found : Store.get? directory (key id) with
  | none => rw [get_eq_notFound found] at got; cases got
  | some octets =>
      obtain ⟨written, noSecret, rfl⟩ := seals.values _ _ found
      rw [get_of_load (load_of_get? found)] at got
      obtain rfl := Except.ok.inj (congrArg Prod.fst got)
      exact noSecret.respelled

end ScheduledJobs.Emulator
