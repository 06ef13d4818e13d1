import ScheduledJobs.Proofs.Definition.Reading
import ScheduledJobs.Proofs.History
import ScheduledJobs.Proofs.Service.Emulator
import ScheduledJobs.Service.Script

/-!
# The emulator is a map

After any calls the emulator finds under every id the definition that the last
call that concerns the text of the id has left there.
-/

namespace ScheduledJobs.Emulator

open Document Text

structure TimedCall where
  now : Instant
  call : Service.Call

inductive Reply where
  | stored (result : Except Service.Error Definition)
  | found (result : Except Service.Error Definition)
  | removed (result : Except Service.Error Unit)

/-- The reply of the emulator over the store with the given root. -/
def answer (root : String) (timed : TimedCall) (directory : Directory) :
    Reply × Directory :=
  match timed.call with
  | .createOrUpdate id definition =>
      let done := createOrUpdate root timed.now id definition directory
      (.stored done.1, done.2)
  | .get id =>
      let done := get root id directory
      (.found done.1, done.2)
  | .delete id =>
      let done := delete id directory
      (.removed done.1, done.2)

/-- What a call with its reply leaves under the text of an id: the definition
that has been stored, or nothing when it has been deleted. -/
def change? : TimedCall × Reply → Option (String × Option Definition)
  | (⟨_, .createOrUpdate id _⟩, .stored (.ok kept)) => some (id.text, some kept)
  | (⟨_, .delete id⟩, _) => some (id.text, none)
  | _ => none

/-- Whether the definitions in the calls have been read from documents. -/
def AreRead (calls : List TimedCall) : Prop :=
  ∀ timed ∈ calls, ∀ id definition,
    timed.call = .createOrUpdate id definition →
      ∃ value, Definition.read value = .ok definition

/-- Whether the directory, in which names have at most `limit` octets, keeps the
definitions of the map under its texts. -/
structure Keeps (limit : Nat) (directory : Directory)
    (held : String → Option Definition) : Prop where
  nameLimit : directory.nameLimit = limit
  noFolder : directory.HasNoFolder
  canonical : ∀ text definition, held text = some definition →
    definition.IsCanonical
  values : ∀ id, Store.get? directory (key id) =
    (held id.text).map fun definition =>
      Utf8.encode (Json.render definition.toValue)

namespace Keeps

variable {limit : Nat} {directory : Directory}
  {held : String → Option Definition}

theorem fresh (limit : Nat) :
    Keeps limit { nameLimit := limit } fun _ => none where
  nameLimit := rfl
  noFolder := .fresh limit
  canonical := by
    intro text definition isHeld
    cases isHeld
  values := by
    intro id
    rw [Option.map_none]
    exact Store.get?_fresh limit (key id)

theorem get_eq (keeps : Keeps limit directory held) (root : String)
    (id : JobId) :
    get root id directory =
      ((held id.text).elim (.error .notFound) .ok, directory) := by
  have octets := keeps.values id
  cases isHeld : held id.text with
  | none =>
      rw [isHeld] at octets
      exact get_eq_notFound octets root
  | some definition =>
      rw [isHeld] at octets
      exact get_of_load (load_of_isCanonical
        (keeps.canonical id.text definition isHeld) octets) root

/-- A directory that differs under the key of one id keeps the map that differs
under the text of that id. -/
theorem change (keeps : Keeps limit directory held) {next : Directory}
    {id : JobId} {definition? : Option Definition}
    (sameLimit : next.nameLimit = directory.nameLimit)
    (noFolder : next.HasNoFolder)
    (canonical : ∀ definition ∈ definition?, definition.IsCanonical)
    (value : Store.get? next (key id) =
      definition?.map fun definition =>
        Utf8.encode (Json.render definition.toValue))
    (others : ∀ other, other ≠ key id →
      Store.get? next other = Store.get? directory other) :
    Keeps limit next fun text =>
      if text = id.text then definition? else held text where
  nameLimit := sameLimit.trans keeps.nameLimit
  noFolder := noFolder
  canonical := by
    intro text definition isHeld
    split at isHeld
    · exact canonical definition isHeld
    · exact keeps.canonical text definition isHeld
  values := by
    intro other
    by_cases same : other.text = id.text
    · have sameKey : key other = key id := by rw [key, key, same]
      rw [if_pos same, sameKey]
      exact value
    · have different : key other ≠ key id := fun equal =>
        same (Store.namespaced_injective equal)
      rw [if_neg same, ← keeps.values other]
      exact others _ different

theorem saved (keeps : Keeps limit directory held) {id : JobId}
    (fits : Store.Fits directory (key id)) {definition : Definition}
    (canonical : definition.IsCanonical) :
    Keeps limit (saved directory id definition) fun text =>
      if text = id.text then some definition else held text := by
  refine keeps.change rfl (Store.hasNoFolder_written keeps.noFolder _ _) ?_
    (Store.get?_written_self fits _)
    fun other different => Store.get?_written_of_ne different directory _
  intro other isHeld
  rwa [← Option.some.inj isHeld]

theorem delete (keeps : Keeps limit directory held) (id : JobId) :
    Keeps limit (delete id directory).2 fun text =>
      if text = id.text then none else held text := by
  rw [delete_snd]
  refine keeps.change (Store.nameLimit_delete directory _)
    (Store.hasNoFolder_delete keeps.noFolder _) ?_
    (Store.get?_delete_self directory _)
    fun other different => Store.get?_delete_of_ne different directory
  intro definition isHeld
  cases isHeld

/-- A call changes the map as its reply tells. -/
theorem answer {past : History TimedCall Reply}
    (keeps : Keeps limit directory (past.lastValue change?)) (root : String)
    (timed : TimedCall)
    (isRead : ∀ id definition, timed.call = .createOrUpdate id definition →
      ∃ value, Definition.read value = .ok definition) :
    Keeps limit (answer root timed directory).2
      (History.lastValue change?
        (past ++ [(timed, (answer root timed directory).1)])) := by
  obtain ⟨now, call⟩ := timed
  cases call with
  | createOrUpdate id definition =>
      obtain ⟨value, reads⟩ := isRead id definition rfl
      have canonical := isCanonical_storedAt
        (Definition.isCanonical_of_read reads) id now
      by_cases accepted :
          Store.Fits directory (key id) ∧ CanExpire now definition
      · have done := createOrUpdate_of_fits keeps.noFolder accepted.1
          accepted.2 root
        have change : change? (⟨now, .createOrUpdate id definition⟩,
              .stored (.ok (storedAt id now definition))) =
            some (id.text, some (storedAt id now definition)) := rfl
        simp only [Emulator.answer, done]
        rw [History.lastValue_concat_of_eq_some change]
        exact keeps.saved accepted.1 canonical
      · obtain ⟨error, done⟩ := createOrUpdate_of_not_fits accepted root
        have unchanged : change? (⟨now, .createOrUpdate id definition⟩,
            .stored (.error error)) = none := rfl
        simp only [Emulator.answer, done]
        rw [History.lastValue_concat_of_eq_none unchanged]
        exact keeps
  | get id =>
      have unchanged : change? (⟨now, .get id⟩,
          .found (get root id directory).1) = none := rfl
      simp only [Emulator.answer, get_snd]
      rw [History.lastValue_concat_of_eq_none unchanged]
      exact keeps
  | delete id =>
      have change : change? (⟨now, .delete id⟩,
          .removed (Emulator.delete id directory).1) = some (id.text, none) :=
        rfl
      simp only [Emulator.answer]
      rw [History.lastValue_concat_of_eq_some change]
      exact keeps.delete id

theorem ofInputs (root : String) (limit : Nat) {calls : List TimedCall}
    (areRead : AreRead calls) :
    let ended :=
      History.ofInputs (Emulator.answer root) calls { nameLimit := limit }
    Keeps limit ended.2 (ended.1.lastValue change?) :=
  History.related_ofInputs
    (fun directory past => Keeps limit directory (past.lastValue change?))
    (fun timed member _ _ keeps =>
      keeps.answer root timed (areRead timed member))
    (fresh limit)

end Keeps

theorem delete_eq_ok_iff (root : String) (id : JobId) {directory : Directory}
    {held : String → Option Definition} {limit : Nat}
    (keeps : Keeps limit directory held) :
    (delete id directory).1 = .ok () ↔
      ∃ definition, (get root id directory).1 = .ok definition := by
  have existed : (Store.delete directory (key id)).1 =
      (held id.text).isSome := by
    rw [Store.isSome_delete, keeps.values, Option.isSome_map]
  rw [delete_eq, keeps.get_eq, existed]
  cases held id.text <;> simp

/-- A definition is stored exactly when its key fits and its certificates can
be given a date; one that is not stored changes nothing. -/
theorem createOrUpdate_cases {directory : Directory}
    (noFolder : directory.HasNoFolder) (root : String) (now : Instant)
    (id : JobId) (definition : Definition) :
    ((∃ kept, (createOrUpdate root now id definition directory).1 =
        .ok kept) ↔
      Store.Fits directory (key id) ∧ CanExpire now definition) ∧
    ∀ error, (createOrUpdate root now id definition directory).1 =
      .error error →
        (createOrUpdate root now id definition directory).2 = directory := by
  by_cases accepted : Store.Fits directory (key id) ∧ CanExpire now definition
  · simp [createOrUpdate_of_fits noFolder accepted.1 accepted.2, accepted]
  · obtain ⟨error, done⟩ := createOrUpdate_of_not_fits accepted root
    simp [done, accepted]

/-- After any calls with definitions that have been read, the emulator finds
under an id what the last call that concerns its text has left there, and can
delete what it finds.  It refuses a definition exactly when the key is too long
or a certificate would have to expire after the end of the calendar. -/
theorem definitions_of_run (root : String) (limit : Nat)
    (calls : List TimedCall) (areRead : AreRead calls) :
    let ended := History.ofInputs (answer root) calls { nameLimit := limit }
    let held := ended.1.lastValue change?
    ∀ id,
      get root id ended.2 =
        ((held id.text).elim (.error .notFound) .ok, ended.2) ∧
      ((delete id ended.2).1 = .ok () ↔
        ∃ definition, (get root id ended.2).1 = .ok definition) ∧
      ∀ now definition,
        ((∃ kept, (createOrUpdate root now id definition ended.2).1 =
            .ok kept) ↔
          2 * (key id).length + 4 ≤ limit ∧ CanExpire now definition) ∧
        ∀ error, (createOrUpdate root now id definition ended.2).1 =
          .error error →
            (createOrUpdate root now id definition ended.2).2 = ended.2 := by
  intro ended held id
  have keeps : Keeps limit ended.2 held := Keeps.ofInputs root limit areRead
  refine ⟨keeps.get_eq root id, delete_eq_ok_iff root id keeps, ?_⟩
  intro now definition
  rw [← keeps.nameLimit]
  exact createOrUpdate_cases keeps.noFolder root now id definition

/-- A job that is stored is found, and can be deleted. -/
theorem definitions_of_run_of_one :
    let id : JobId := ⟨"s", "g", "c", "nightly"⟩
    let calls : List TimedCall := [⟨.epoch, .createOrUpdate id {}⟩]
    let ended := History.ofInputs (answer "") calls { nameLimit := 255 }
    AreRead calls ∧
      get "" id ended.2 = (.ok (storedAt id .epoch {}), ended.2) ∧
      (delete id ended.2).1 = .ok () := by
  intro id calls ended
  have areRead : AreRead calls := by
    have isRead : ∃ value, Definition.read value = .ok {} :=
      ⟨.table [], rfl⟩
    simp [AreRead, calls, isRead]
  have fits : Store.Fits { nameLimit := 255 } (key id) := by
    rw [Store.Fits, length_key]
    decide +kernel
  have canExpire : CanExpire .epoch {} := .inr rfl
  have done := createOrUpdate_of_fits (.fresh 255) fits canExpire ""
  have held : ended.1.lastValue change? id.text =
      some (storedAt id .epoch {}) := by
    simp [ended, calls, History.ofInputs, History.lastValue, answer, done,
      change?]
  have values := definitions_of_run "" 255 calls areRead id
  have gets : get "" id ended.2 = (.ok (storedAt id .epoch {}), ended.2) := by
    rw [values.1, held, Option.elim_some]
  exact ⟨areRead, gets, values.2.1.mpr ⟨_, congrArg Prod.fst gets⟩⟩

/-- The last day of the calendar. -/
def lastDay : Instant where
  date := ⟨262142, 12, 31, by decide, by decide, by decide⟩
  hour := 23
  minute := 59
  second := 59
  nanosecond := 0

/-- A certificate that is sent at the end of the calendar is refused under any
key. -/
theorem not_refused_only_under_long_keys :
    ¬∀ root limit calls, AreRead calls →
      let ended := History.ofInputs (answer root) calls { nameLimit := limit }
      ∀ id now definition, (∃ value, Definition.read value = .ok definition) →
        ∀ error, (createOrUpdate root now id definition ended.2).1 =
          .error error → limit < 2 * (key id).length + 4 := by
  intro claim
  let definition : Definition :=
    { properties := some { action := some { request := some {
        authentication := some (.certificate { pfx := some "P" }) } } } }
  have reads : Definition.read definition.toValue = .ok definition := rfl
  have refused : (createOrUpdate "" lastDay ⟨"s", "g", "c", "j"⟩ definition
      { nameLimit := 255 }).1 = .error .beyondCalendar := by
    rfl
  have long := claim "" 255 [] (by simp [AreRead]) ⟨"s", "g", "c", "j"⟩
    lastDay definition ⟨_, reads⟩ .beyondCalendar refused
  rw [length_key] at long
  exact absurd long (by decide +kernel)

end ScheduledJobs.Emulator
