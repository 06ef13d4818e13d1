import ScheduledJobs.Proofs.Directory
import ScheduledJobs.Proofs.Document.Json.RoundTrip
import ScheduledJobs.Store.Basic

/-!
# The store keeps values under keys

Writing and removing a value changes what is under its own key and under no
other one.
-/

namespace ScheduledJobs.Store

open Document Text

theorem fileName_injective {first second : List UInt8}
    (equal : fileName first = fileName second) : first = second := by
  have digits := congrArg String.toList equal
  simp only [fileName, String.toList_ofList] at digits
  exact Hexadecimal.ofOctets_injective digits

theorem isHexDigit_of_mem_ofOctets {octets : List UInt8} {character : Char}
    (member : character ∈ Hexadecimal.ofOctets octets) :
    ∃ number < 16, character = Hexadecimal.digit number := by
  obtain ⟨octet, -, isDigit⟩ := List.mem_flatMap.mp member
  have below := octet.toNat_lt
  simp only [Hexadecimal.ofOctet, List.mem_cons, List.not_mem_nil,
    or_false] at isDigit
  rcases isDigit with high | low
  · exact ⟨_, by omega, high⟩
  · exact ⟨_, by omega, low⟩

/-- A temporary file never has the name of a key: there is no point among
hexadecimal digits. -/
theorem fileName_ne_temporaryName (key other : List UInt8) :
    fileName key ≠ temporaryName other := by
  intro equal
  have point : '.' ∈ (fileName key).toList := by
    rw [equal, temporaryName, String.toList_append]
    exact List.mem_append_right _ (by decide)
  rw [fileName, String.toList_ofList] at point
  obtain ⟨number, below, isDigit⟩ := isHexDigit_of_mem_ofOctets point
  have noDigit : ∀ number < 16, '.' ≠ Hexadecimal.digit number := by decide
  exact noDigit number below isDigit

theorem utf8Size_digit :
    ∀ number < 16, (Hexadecimal.digit number).utf8Size = 1 := by
  decide

theorem utf8Length_ofOctets (octets : List UInt8) :
    Utf8.length (Hexadecimal.ofOctets octets) = 2 * octets.length := by
  induction octets with
  | nil => rfl
  | cons octet octets ih =>
      have below := octet.toNat_lt
      simp only [Hexadecimal.ofOctets_cons, Utf8.length_cons, ih,
        utf8Size_digit (octet.toNat / 16) (by omega),
        utf8Size_digit (octet.toNat % 16) (by omega), List.length_cons]
      omega

/-- Whether the files of a key have names that are short enough. -/
def Fits (directory : Directory) (key : List UInt8) : Prop :=
  2 * key.length + 4 ≤ directory.nameLimit

instance (directory : Directory) (key : List UInt8) :
    Decidable (Fits directory key) :=
  inferInstanceAs (Decidable (_ ≤ _))

theorem admits_fileName_iff {directory : Directory} {key : List UInt8} :
    directory.admits (fileName key) = true ↔
      2 * key.length ≤ directory.nameLimit := by
  simp [Directory.admits, fileName, utf8Length_ofOctets]

theorem admits_temporaryName_iff {directory : Directory} {key : List UInt8} :
    directory.admits (temporaryName key) = true ↔ Fits directory key := by
  have ending : Utf8.length ".tmp".toList = 4 := by decide
  rw [Directory.admits, temporaryName, fileName, String.toList_append,
    Utf8.length_append, ending, String.toList_ofList, utf8Length_ofOctets]
  exact decide_eq_true_iff

theorem Fits.admits_temporaryName {directory : Directory} {key : List UInt8}
    (fits : Fits directory key) :
    directory.admits (temporaryName key) = true :=
  admits_temporaryName_iff.mpr fits

theorem Fits.admits_fileName {directory : Directory} {key : List UInt8}
    (fits : Fits directory key) : directory.admits (fileName key) = true :=
  admits_fileName_iff.mpr (Nat.le_trans (Nat.le_add_right _ 4) fits)

theorem Fits.congr {directory other : Directory} {key : List UInt8}
    (fits : Fits directory key)
    (sameLimit : other.nameLimit = directory.nameLimit) : Fits other key := by
  rw [Fits, sameLimit]
  exact fits

/-- The directory after a value has been written. -/
def written (directory : Directory) (key value : List UInt8) : Directory :=
  (((directory.withFile (temporaryName key) []).withFile
    (temporaryName key) value).erase (temporaryName key)).withFile
      (fileName key) value

/-- Whether no folder has the name of a file of the key. -/
structure IsFree (directory : Directory) (key : List UInt8) : Prop where
  temporary : directory.get? (temporaryName key) ≠ some .folder
  final : directory.get? (fileName key) ≠ some .folder

theorem isFree_of_hasNoFolder {directory : Directory}
    (noFolder : directory.HasNoFolder) (key : List UInt8) :
    IsFree directory key :=
  ⟨noFolder _, noFolder _⟩

/-- The directory after a value has been written to the temporary file. -/
def filled (directory : Directory) (key value : List UInt8) : Directory :=
  (directory.withFile (temporaryName key) []).withFile (temporaryName key)
    value

theorem file?_filled {directory : Directory} {key : List UInt8}
    (fits : Fits directory key) (value : List UInt8) :
    (filled directory key value).file? (temporaryName key) = some value :=
  (directory.withFile (temporaryName key) []).file?_withFile_self
    fits.admits_temporaryName value

/-- When the temporary file can be created, the value is in it before that file
takes the name of the key. -/
theorem steps_writeSteps {directory : Directory} {key : List UInt8}
    (free : directory.get? (temporaryName key) ≠ some .folder)
    (fits : Fits directory key) (value : List UInt8) :
    directory.steps (writeSteps key value) =
      (filled directory key value).steps
        [.rename (temporaryName key) (fileName key)] := by
  have temporary := fits.admits_temporaryName
  let created := directory.withFile (temporaryName key) []
  have create : directory.step (.create (temporaryName key)) =
      .ok created := by
    simp only [Directory.step, Directory.obstacle?_of_admits temporary,
      if_neg free]
    rfl
  have append : created.step (.append (temporaryName key) value) =
      .ok (filled directory key value) := by
    have empty : created.file? (temporaryName key) = some [] :=
      directory.file?_withFile_self temporary []
    simp only [Directory.step, empty, List.nil_append]
    rfl
  have flush : (filled directory key value).step
      (.flush (temporaryName key)) = .ok (filled directory key value) := by
    simp only [Directory.step, file?_filled fits]
  rw [writeSteps, pieceSteps, Directory.steps_cons_of_ok create,
    List.map_singleton, List.singleton_append,
    Directory.steps_cons_of_ok append, Directory.steps_cons_of_ok flush]

/-- The temporary file takes the name of the key unless that is the name of a
folder. -/
theorem step_rename_filled {directory : Directory} {key : List UInt8}
    (fits : Fits directory key) (value : List UInt8) :
    (filled directory key value).step
        (.rename (temporaryName key) (fileName key)) =
      if directory.get? (fileName key) = some .folder then .error .directory
      else .ok (written directory key value) := by
  have obstacle : (filled directory key value).obstacle? (fileName key) =
      if directory.get? (fileName key) = some .folder then some .directory
      else none := by
    have apart := fileName_ne_temporaryName key key
    have admitted : (filled directory key value).admits (fileName key) =
        true := fits.admits_fileName
    rw [Directory.obstacle?_of_admits admitted, filled,
      Directory.get?_withFile, if_neg apart, Directory.get?_withFile,
      if_neg apart]
  by_cases isFolder : directory.get? (fileName key) = some .folder
  · simp only [Directory.step, file?_filled fits, obstacle, if_pos isFolder]
  · simp only [Directory.step, file?_filled fits, obstacle, if_neg isFolder]
    rfl

/-- When the temporary file can be created, the value is put as soon as that
file can take the name of the key. -/
theorem put_eq_rename {directory : Directory} {key : List UInt8}
    (nonempty : key ≠ [])
    (free : directory.get? (temporaryName key) ≠ some .folder)
    (fits : Fits directory key) (value : List UInt8) :
    put directory key value =
      if directory.get? (fileName key) = some .folder then
        (.error (.rename key .directory), filled directory key value)
      else (.ok (), written directory key value) := by
  have rename := step_rename_filled fits value
  have filling := steps_writeSteps free fits value
  split
  case isTrue isFolder =>
    rw [if_pos isFolder] at rename
    have stopped : directory.steps (writeSteps key value) =
        (.error (.rename (temporaryName key) (fileName key), .directory),
          filled directory key value) := by
      simp only [filling, Directory.steps, rename]
    simp [put, stopped, nonempty]
  case isFalse noFolder =>
    rw [if_neg noFolder] at rename
    have taken : directory.steps (writeSteps key value) =
        (.ok (), written directory key value) := by
      rw [filling, Directory.steps_cons_of_ok rename, Directory.steps_nil]
    simp [put, taken, nonempty]

theorem put_of_isFree {directory : Directory} {key : List UInt8}
    (free : IsFree directory key) (nonempty : key ≠ [])
    (fits : Fits directory key) (value : List UInt8) :
    put directory key value = (.ok (), written directory key value) := by
  rw [put_eq_rename nonempty free.temporary fits, if_neg free.final]

theorem put_of_fits {directory : Directory}
    (noFolder : directory.HasNoFolder) {key : List UInt8}
    (nonempty : key ≠ [])
    (fits : Fits directory key) (value : List UInt8) :
    put directory key value = (.ok (), written directory key value) :=
  put_of_isFree (isFree_of_hasNoFolder noFolder key) nonempty fits value

theorem put_of_obstacle {directory : Directory} {key : List UInt8}
    (nonempty : key ≠ []) {error : FileError}
    (obstacle : directory.obstacle? (temporaryName key) = some error)
    (value : List UInt8) :
    put directory key value = (.error (.create key error), directory) := by
  have create : directory.step (.create (temporaryName key)) =
      .error error := by
    simp only [Directory.step, obstacle]
  have taken : directory.steps (writeSteps key value) =
      (.error (.create (temporaryName key), error), directory) := by
    simp only [writeSteps, pieceSteps, Directory.steps, create]
  simp [put, taken, nonempty]

/-- When a temporary file can be created, all depends on whether it can take
the name of the key. -/
theorem put_of_no_obstacle {directory : Directory} {key : List UInt8}
    (nonempty : key ≠ [])
    (obstacle : directory.obstacle? (temporaryName key) = none)
    (value : List UInt8) :
    put directory key value =
      if directory.get? (fileName key) = some .folder then
        (.error (.rename key .directory), filled directory key value)
      else (.ok (), written directory key value) := by
  obtain ⟨admitted, noFolder⟩ := Directory.obstacle?_eq_none_iff.mp obstacle
  exact put_eq_rename nonempty noFolder (admits_temporaryName_iff.mp admitted)
    value

theorem put_of_not_fits {directory : Directory} {key : List UInt8}
    (nonempty : key ≠ []) (tooLong : ¬Fits directory key)
    (value : List UInt8) :
    put directory key value =
      (.error (.create key .longName), directory) := by
  have refused : directory.admits (temporaryName key) = false := by
    rw [← Bool.not_eq_true, admits_temporaryName_iff]
    exact tooLong
  exact put_of_obstacle nonempty (Directory.obstacle?_eq_longName refused)
    value

theorem put_nil (directory : Directory) (value : List UInt8) :
    put directory [] value =
      (.error (.rename [] .notDirectory), directory) := rfl

theorem eq_written_of_put {directory next : Directory}
    {key value : List UInt8}
    (done : put directory key value = (.ok (), next)) :
    Fits directory key ∧ next = written directory key value := by
  by_cases nonempty : key = []
  · rw [nonempty, put_nil] at done
    cases done
  cases obstacle : directory.obstacle? (temporaryName key) with
  | some error =>
      rw [put_of_obstacle nonempty obstacle] at done
      cases done
  | none =>
      have admitted := (Directory.obstacle?_eq_none_iff.mp obstacle).1
      rw [put_of_no_obstacle nonempty obstacle] at done
      split at done
      · cases done
      · exact ⟨admits_temporaryName_iff.mp admitted,
          (congrArg Prod.snd done).symm⟩

theorem get?_name_written (directory : Directory) (key value : List UInt8)
    (name : String) :
    (written directory key value).get? name =
      if name = fileName key then some (.file value)
      else if name = temporaryName key then none
      else directory.get? name := by
  simp only [written, Directory.get?_withFile, Directory.get?_erase]
  by_cases isTemporary : name = temporaryName key
  · simp [isTemporary]
  · simp [isTemporary]

theorem isFree_written (directory : Directory) (key value : List UInt8) :
    IsFree (written directory key value) key where
  temporary := by
    have apart := (fileName_ne_temporaryName key key).symm
    simp [get?_name_written, apart]
  final := by simp [get?_name_written]

theorem written_written (directory : Directory) (key value other : List UInt8) :
    written (written directory key value) key other =
      written directory key other := by
  have sameLimit : (written (written directory key value) key
      other).nameLimit = (written directory key other).nameLimit := rfl
  refine Directory.ext_get? sameLimit fun name => ?_
  simp only [get?_name_written]
  by_cases isFile : name = fileName key
  · simp [isFile]
  · by_cases isTemporary : name = temporaryName key <;>
      simp [isFile, isTemporary]

theorem get?_written_self {directory : Directory} {key : List UInt8}
    (fits : Fits directory key) (value : List UInt8) :
    get? (written directory key value) key = some value := by
  rw [get?, written, Directory.file?_withFile_self]
  simpa using fits.admits_fileName

theorem get?_written_of_ne {key other : List UInt8} (different : other ≠ key)
    (directory : Directory) (value : List UInt8) :
    get? (written directory key value) other = get? directory other := by
  have names : fileName other ≠ fileName key := fun equal =>
    different (fileName_injective equal)
  have temporary := fileName_ne_temporaryName other key
  rw [get?, written, Directory.file?_withFile_of_ne names,
    Directory.file?_erase_of_ne temporary,
    Directory.file?_withFile_of_ne temporary,
    Directory.file?_withFile_of_ne temporary, get?]

theorem hasNoFolder_written {directory : Directory}
    (noFolder : directory.HasNoFolder) (key value : List UInt8) :
    (written directory key value).HasNoFolder :=
  (((noFolder.withFile _ _).withFile _ _).erase _).withFile _ _

@[simp] theorem nameLimit_written (directory : Directory)
    (key value : List UInt8) :
    (written directory key value).nameLimit = directory.nameLimit := rfl

theorem isSome_delete (directory : Directory) (key : List UInt8) :
    (delete directory key).1 = (get? directory key).isSome := by
  unfold delete
  split
  · next found => exact found.symm
  · next absent => exact (Bool.eq_false_iff.mpr absent).symm

theorem get?_delete_self (directory : Directory) (key : List UInt8) :
    get? (delete directory key).2 key = none := by
  unfold delete
  split
  · exact Directory.file?_erase_self directory (fileName key)
  · next absent => simpa using absent

theorem get?_delete_of_ne {key other : List UInt8} (different : other ≠ key)
    (directory : Directory) :
    get? (delete directory key).2 other = get? directory other := by
  have names : fileName other ≠ fileName key := fun equal =>
    different (fileName_injective equal)
  unfold delete
  split
  · exact Directory.file?_erase_of_ne names directory
  · rfl

theorem hasNoFolder_delete {directory : Directory}
    (noFolder : directory.HasNoFolder) (key : List UInt8) :
    (delete directory key).2.HasNoFolder := by
  unfold delete
  split
  · exact noFolder.erase _
  · exact noFolder

theorem nameLimit_delete (directory : Directory) (key : List UInt8) :
    (delete directory key).2.nameLimit = directory.nameLimit := by
  unfold delete
  split <;> rfl

/-- The directories that result from writing and removing values in an empty
one in which names have at most `limit` octets. -/
inductive Reachable (limit : Nat) : Directory → Prop where
  | fresh : Reachable limit { nameLimit := limit }
  | put {directory : Directory} (key value : List UInt8)
      (before : Reachable limit directory) :
      Reachable limit (put directory key value).2
  | delete {directory : Directory} (key : List UInt8)
      (before : Reachable limit directory) :
      Reachable limit (delete directory key).2

theorem get?_fresh (limit : Nat) (key : List UInt8) :
    get? { nameLimit := limit } key = none := by
  have absent : ({ nameLimit := limit } : Directory).get? (fileName key) =
      none := rfl
  simp [get?, Directory.file?, absent]

/-- A put writes the value or changes nothing. -/
theorem put_cases {directory : Directory} (noFolder : directory.HasNoFolder)
    (key value : List UInt8) :
    ((key ≠ [] ∧ Fits directory key) ∧
      put directory key value = (.ok (), written directory key value)) ∨
    (¬(key ≠ [] ∧ Fits directory key) ∧
      ∃ failure, put directory key value = (.error failure, directory)) := by
  by_cases nonempty : key = []
  · exact .inr ⟨fun both => both.1 nonempty, _, by rw [nonempty, put_nil]⟩
  · by_cases fits : Fits directory key
    · exact .inl ⟨⟨nonempty, fits⟩, put_of_fits noFolder nonempty fits value⟩
    · exact .inr ⟨fun both => fits both.2, _,
        put_of_not_fits nonempty fits value⟩

theorem put_eq {directory : Directory} (noFolder : directory.HasNoFolder)
    (key value : List UInt8) :
    (put directory key value).2 = written directory key value ∨
      (put directory key value).2 = directory := by
  rcases put_cases noFolder key value with ⟨-, done⟩ | ⟨-, failure, done⟩
  · exact .inl (by rw [done])
  · exact .inr (by rw [done])

theorem hasNoFolder_put {directory : Directory}
    (noFolder : directory.HasNoFolder) (key value : List UInt8) :
    (put directory key value).2.HasNoFolder := by
  rcases put_eq noFolder key value with after | after
  · rw [after]
    exact hasNoFolder_written noFolder key value
  · rwa [after]

theorem nameLimit_put {directory : Directory}
    (noFolder : directory.HasNoFolder) (key value : List UInt8) :
    (put directory key value).2.nameLimit = directory.nameLimit := by
  rcases put_eq noFolder key value with after | after
  · rw [after, nameLimit_written]
  · rw [after]

theorem get?_put_of_ne {directory : Directory}
    (noFolder : directory.HasNoFolder) {key other : List UInt8}
    (different : other ≠ key) (value : List UInt8) :
    get? (put directory key value).2 other = get? directory other := by
  rcases put_eq noFolder key value with after | after
  · rw [after, get?_written_of_ne different]
  · rw [after]

theorem Reachable.hasNoFolder {limit : Nat} {directory : Directory}
    (reachable : Reachable limit directory) : directory.HasNoFolder := by
  induction reachable with
  | fresh => exact .fresh limit
  | put key value before ih => exact hasNoFolder_put ih key value
  | delete key before ih => exact hasNoFolder_delete ih key

theorem Reachable.nameLimit {limit : Nat} {directory : Directory}
    (reachable : Reachable limit directory) :
    directory.nameLimit = limit := by
  induction reachable with
  | fresh => rfl
  | put key value before ih => rw [nameLimit_put before.hasNoFolder, ih]
  | delete key before ih => rw [nameLimit_delete, ih]

theorem load_of_get? {α : Type} {read : Reader α} {directory : Directory}
    {key : List UInt8} {value : Value}
    (found : get? directory key = some (Utf8.encode (Json.render value)))
    (plain : value.FitsIn Json.depthLimit) {item : α}
    (reads : read value = .ok item) :
    load read directory key = .ok (some item) := by
  have parsed := Json.ofOctets?_render plain.plain plain.shallow
  simp only [load, found, parsed, Option.map_some, reads]

end ScheduledJobs.Store
