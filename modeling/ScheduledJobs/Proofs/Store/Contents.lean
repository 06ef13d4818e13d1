import ScheduledJobs.Proofs.History
import ScheduledJobs.Proofs.Store.Basic

/-!
# A store is a map

After any calls a store holds under every key what the last call that concerns
the key has left there.
-/

namespace ScheduledJobs.Store

open Text

/-- Whether the name spells the key: two hexadecimal digits for every octet,
with letters in lower case. -/
def Spells (name : String) (key : List UInt8) : Prop :=
  (∀ character ∈ name.toList, character ∈ "0123456789abcdef".toList) ∧
    Hexadecimal.toOctets? name.toList = some key

theorem digit_of_digit? :
    ∀ character ∈ "0123456789abcdef".toList, ∀ number,
      Hexadecimal.digit? character = some number →
        number < 16 ∧ Hexadecimal.digit number = character := by
  simp only [String.reduceToList, List.forall_mem_cons]
  simp [Hexadecimal.digit?, Hexadecimal.digit]

theorem mem_lowerDigits :
    ∀ number < 16,
      Hexadecimal.digit number ∈ "0123456789abcdef".toList := by
  decide

theorem ofOctets_of_toOctets? {digits : List Char} {octets : List UInt8}
    (lower : ∀ digit ∈ digits, digit ∈ "0123456789abcdef".toList)
    (read : Hexadecimal.toOctets? digits = some octets) :
    digits = Hexadecimal.ofOctets octets := by
  induction digits using Hexadecimal.toOctets?.induct generalizing octets with
  | case1 =>
      obtain rfl : [] = octets := by simpa [Hexadecimal.toOctets?] using read
      rfl
  | case2 digit => simp [Hexadecimal.toOctets?] at read
  | case3 high low rest ih =>
      obtain ⟨upper, isUpper, read⟩ := Option.bind_eq_some_iff.mp read
      obtain ⟨under, isUnder, read⟩ := Option.bind_eq_some_iff.mp read
      obtain ⟨others, isOthers, read⟩ := Option.bind_eq_some_iff.mp read
      obtain rfl := Option.some.inj read
      obtain ⟨upperBelow, rfl⟩ :=
        digit_of_digit? high (lower high (by simp)) upper isUpper
      obtain ⟨underBelow, rfl⟩ :=
        digit_of_digit? low (lower low (by simp)) under isUnder
      have value : (UInt8.ofNat (upper * 16 + under)).toNat =
          upper * 16 + under := by
        rw [UInt8.toNat_ofNat']
        omega
      have first : (upper * 16 + under) / 16 = upper := by omega
      have second : (upper * 16 + under) % 16 = under := by omega
      rw [Hexadecimal.ofOctets_cons, value, first, second,
        ih (fun digit member => lower digit (by simp [member])) isOthers]

theorem spells_iff {name : String} {key : List UInt8} :
    Spells name key ↔ name = fileName key := by
  constructor
  · intro spells
    have digits := ofOctets_of_toOctets? spells.1 spells.2
    rw [fileName, ← digits, String.ofList_toList]
  · rintro rfl
    rw [Spells, fileName, String.toList_ofList]
    refine ⟨?_, Hexadecimal.toOctets?_ofOctets key⟩
    intro character member
    obtain ⟨number, below, rfl⟩ := isHexDigit_of_mem_ofOctets member
    exact mem_lowerDigits number below

inductive Call where
  | put (key value : List UInt8)
  | get (key : List UInt8)
  | delete (key : List UInt8)

inductive Reply where
  | stored (result : Except Failure Unit)
  | found (value? : Option (List UInt8))
  | removed (existed : Bool)

def answer : Call → Directory → Reply × Directory
  | .put key value, directory =>
      let done := put directory key value
      (.stored done.1, done.2)
  | .get key, directory => (.found (get? directory key), directory)
  | .delete key, directory =>
      let done := delete directory key
      (.removed done.1, done.2)

/-- What a call with its reply leaves under a key: a value that has been put,
or nothing when the key has been deleted. -/
def change? : Call × Reply → Option (List UInt8 × Option (List UInt8))
  | (.put key value, .stored (.ok ())) => some (key, some value)
  | (.delete key, _) => some (key, none)
  | _ => none

/-- Whether the directory, in which names have at most `limit` octets, holds
exactly the files of the map. -/
structure Contains (limit : Nat) (directory : Directory)
    (held : List UInt8 → Option (List UInt8)) : Prop where
  nameLimit : directory.nameLimit = limit
  fits : ∀ key value, held key = some value → Fits directory key
  files : ∀ name entry, directory.get? name = some entry ↔
    ∃ key value, held key = some value ∧ name = fileName key ∧
      entry = .file value

namespace Contains

variable {limit : Nat} {directory : Directory}
  {held : List UInt8 → Option (List UInt8)}

theorem fresh (limit : Nat) :
    Contains limit { nameLimit := limit } fun _ => none where
  nameLimit := rfl
  fits := nofun
  files := by
    intro name entry
    constructor
    · intro found
      cases found
    · rintro ⟨key, value, isHeld, -⟩
      cases isHeld

theorem get?_fileName (contains : Contains limit directory held)
    (key : List UInt8) :
    directory.get? (fileName key) = (held key).map .file := by
  cases isHeld : held key with
  | some value =>
      exact (contains.files _ _).mpr ⟨key, value, isHeld, rfl, rfl⟩
  | none =>
      rw [Option.map_none, Option.eq_none_iff_forall_not_mem]
      intro entry found
      obtain ⟨other, value, otherHeld, sameName, -⟩ :=
        (contains.files _ _).mp found
      rw [← fileName_injective sameName, isHeld] at otherHeld
      cases otherHeld

theorem get?_eq (contains : Contains limit directory held) (key : List UInt8) :
    get? directory key = held key := by
  have file := contains.get?_fileName key
  cases isHeld : held key with
  | none => simp [Store.get?, Directory.file?, file, isHeld]
  | some value =>
      have admitted := (contains.fits key value isHeld).admits_fileName
      simp [Store.get?, Directory.file?, file, isHeld, admitted]

theorem hasNoFolder (contains : Contains limit directory held) :
    directory.HasNoFolder := by
  intro name isFolder
  obtain ⟨key, value, -, -, isFile⟩ := (contains.files _ _).mp isFolder
  cases isFile

theorem get?_eq_none (contains : Contains limit directory held) {name : String}
    (ending : ".tmp".toList <:+ name.toList) :
    directory.get? name = none := by
  rw [Option.eq_none_iff_forall_not_mem]
  intro entry found
  obtain ⟨key, value, -, rfl, -⟩ := (contains.files _ _).mp found
  have lower := (spells_iff.mpr (rfl : fileName key = fileName key)).1
  have point : '.' ∈ (fileName key).toList := ending.subset (by decide)
  exact absurd (lower '.' point) (by decide)

/-- A directory that differs in the file of one key holds the map that differs
under that key. -/
theorem change (contains : Contains limit directory held) {next : Directory}
    {key : List UInt8} {value? : Option (List UInt8)}
    (sameLimit : next.nameLimit = directory.nameLimit)
    (fits : value?.isSome = true → Fits directory key)
    (entries : ∀ name, next.get? name =
      if name = fileName key then value?.map .file else directory.get? name) :
    Contains limit next fun other =>
      if other = key then value? else held other where
  nameLimit := sameLimit.trans contains.nameLimit
  fits := by
    intro other value isHeld
    split at isHeld
    · next same =>
        rw [same]
        exact (fits (by rw [isHeld]; rfl)).congr sameLimit
    · exact (contains.fits other value isHeld).congr sameLimit
  files := by
    intro name entry
    rw [entries]
    by_cases sameName : name = fileName key
    · rw [if_pos sameName]
      constructor
      · intro found
        obtain ⟨value, isValue, rfl⟩ := Option.map_eq_some_iff.mp found
        exact ⟨key, value, by rw [if_pos rfl, isValue], sameName, rfl⟩
      · rintro ⟨other, value, isHeld, otherName, rfl⟩
        have same : other = key :=
          fileName_injective (otherName.symm.trans sameName)
        rw [if_pos same] at isHeld
        rw [isHeld, Option.map_some]
    · rw [if_neg sameName, contains.files]
      have different {other : List UInt8} (otherName : name = fileName other) :
          other ≠ key := fun same => sameName (same ▸ otherName)
      constructor
      · rintro ⟨other, value, isHeld, otherName, isFile⟩
        exact ⟨other, value, by rw [if_neg (different otherName), isHeld],
          otherName, isFile⟩
      · rintro ⟨other, value, isHeld, otherName, isFile⟩
        rw [if_neg (different otherName)] at isHeld
        exact ⟨other, value, isHeld, otherName, isFile⟩

theorem written (contains : Contains limit directory held) {key : List UInt8}
    (fits : Fits directory key) (value : List UInt8) :
    Contains limit (written directory key value) fun other =>
      if other = key then some value else held other := by
  refine contains.change rfl (fun _ => fits) ?_
  intro name
  have noTemporary : directory.get? (temporaryName key) = none :=
    contains.get?_eq_none (by
      rw [temporaryName, String.toList_append]
      exact List.suffix_append _ _)
  rw [get?_name_written, Option.map_some]
  by_cases isTemporary : name = temporaryName key
  · simp [isTemporary, noTemporary]
  · simp [isTemporary]

theorem delete (contains : Contains limit directory held) (key : List UInt8) :
    Contains limit (delete directory key).2 fun other =>
      if other = key then none else held other := by
  refine contains.change (nameLimit_delete directory key) nofun ?_
  intro name
  unfold Store.delete
  rw [contains.get?_eq, Option.map_none]
  split
  · exact Directory.get?_erase directory (fileName key) name
  · next absent =>
      have missing := contains.get?_fileName key
      rw [Option.not_isSome_iff_eq_none.mp absent] at missing
      split
      · next sameName => rw [sameName, missing, Option.map_none]
      · rfl

/-- A call changes the map as its reply tells. -/
theorem answer {past : History Call Reply}
    (contains : Contains limit directory (past.lastValue change?))
    (call : Call) :
    Contains limit (answer call directory).2
      (History.lastValue change?
        (past ++ [(call, (answer call directory).1)])) := by
  cases call with
  | put key value =>
      rcases put_cases contains.hasNoFolder key value with
        ⟨⟨-, fits⟩, done⟩ | ⟨-, failure, done⟩
      · have change : change? (.put key value, .stored (.ok ())) =
            some (key, some value) := rfl
        simp only [Store.answer, done]
        rw [History.lastValue_concat_of_eq_some change]
        exact contains.written fits value
      · have unchanged : change? (.put key value, .stored (.error failure)) =
            none := rfl
        simp only [Store.answer, done]
        rw [History.lastValue_concat_of_eq_none unchanged]
        exact contains
  | get key =>
      have unchanged : change? (.get key, .found (get? directory key)) =
          none := rfl
      simp only [Store.answer]
      rw [History.lastValue_concat_of_eq_none unchanged]
      exact contains
  | delete key =>
      have change : change? (.delete key,
          .removed (Store.delete directory key).1) = some (key, none) := rfl
      simp only [Store.answer]
      rw [History.lastValue_concat_of_eq_some change]
      exact contains.delete key

theorem ofInputs (calls : List Call) (limit : Nat) :
    let ended := History.ofInputs Store.answer calls { nameLimit := limit }
    Contains limit ended.2 (ended.1.lastValue change?) :=
  History.related_ofInputs
    (fun directory past => Contains limit directory (past.lastValue change?))
    (fun call _ _ _ contains => contains.answer call) (fresh limit)

end Contains

/-- After any calls on an empty store, the value under a key is the one that
the last put of the key has stored unless the key has been deleted since, and
the files are those whose names spell the keys with values.  A put fails
exactly when the temporary name has more than 255 octets. -/
theorem contents_of_run (calls : List Call) :
    let ended := History.ofInputs answer calls ∅
    let held := ended.1.lastValue change?
    (∀ key, get? ended.2 key = held key ∧
      (delete ended.2 key).1 = (get? ended.2 key).isSome) ∧
    (∀ key value, key ≠ [] →
      ((put ended.2 key value).1 = .ok () ↔ ¬255 < 2 * key.length + 4) ∧
      (255 < 2 * key.length + 4 → (put ended.2 key value).2 = ended.2)) ∧
    (∀ first second, fileName first = fileName second → first = second) ∧
    (∀ name entry, ended.2.get? name = some entry ↔
      ∃ key value, held key = some value ∧ Spells name key ∧
        entry = .file value) ∧
    ∀ name, ".tmp".toList <:+ name.toList → ended.2.get? name = none := by
  intro ended held
  have contains : Contains 255 ended.2 held := .ofInputs calls 255
  have fits_iff (key : List UInt8) :
      Fits ended.2 key ↔ ¬255 < 2 * key.length + 4 := by
    rw [Fits, contains.nameLimit, Nat.not_lt]
  refine ⟨fun key => ⟨contains.get?_eq key, isSome_delete _ key⟩, ?_,
    fun _ _ => fileName_injective, ?_, fun _ => contains.get?_eq_none⟩
  · intro key value nonempty
    rcases put_cases contains.hasNoFolder key value with
      ⟨⟨-, fits⟩, done⟩ | ⟨refused, failure, done⟩
    · have short := (fits_iff key).mp fits
      simp [done, short]
    · have long : ¬¬255 < 2 * key.length + 4 :=
        fun short => refused ⟨nonempty, (fits_iff key).mpr short⟩
      simp [done, Decidable.not_not.mp long]
  · intro name entry
    simp only [spells_iff]
    exact contains.files name entry

/-- Two puts of a key and the deletion of another one, before a put of a key
that is too long. -/
theorem contents_of_run_of_three :
    let long := List.replicate 126 (97 : UInt8)
    let ended := History.ofInputs answer
      [.put [97] [1], .put [97] [2], .delete [98]] ∅
    get? ended.2 [97] = some [2] ∧
      (delete ended.2 [98]).1 = false ∧
      (put ended.2 long [3]).2 = ended.2 ∧
      ended.2.get? "61" = some (.file [2]) ∧
      ended.2.get? "61.tmp" = none := by
  intro long ended
  obtain ⟨values, limits, -, files, others⟩ := contents_of_run
    [.put [97] [1], .put [97] [2], .delete [98]]
  have held : ended.1.lastValue change? [97] = some [2] := by decide +kernel
  have none : ended.1.lastValue change? [98] = none := by decide +kernel
  refine ⟨(values [97]).1.trans held, ?_, ?_, ?_, others _ (by decide)⟩
  · rw [(values [98]).2, (values [98]).1, none]
    rfl
  · exact (limits long [3] (by simp [long])).2 (by simp [long])
  · exact (files "61" _).mpr ⟨[97], [2], held, spells_iff.mpr (by decide), rfl⟩

end ScheduledJobs.Store
