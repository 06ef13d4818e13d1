import ScheduledJobs.Directory
import ScheduledJobs.Proofs.SortedMap

/-! # Directories that hold files only -/

namespace ScheduledJobs.Directory

/-- Whether no name stands for a folder. -/
def HasNoFolder (directory : Directory) : Prop :=
  ∀ name, directory.get? name ≠ some .folder

theorem HasNoFolder.fresh (limit : Nat) :
    HasNoFolder { nameLimit := limit } := by
  intro name isFolder
  cases isFolder

theorem ext_get? {first second : Directory}
    (sameLimit : first.nameLimit = second.nameLimit)
    (same : ∀ name, first.get? name = second.get? name) : first = second := by
  obtain ⟨firstContents, limit⟩ := first
  obtain ⟨secondContents, other⟩ := second
  obtain rfl : limit = other := sameLimit
  rw [show firstContents = secondContents from SortedMap.ext_get? same]

@[simp] theorem nameLimit_withFile (directory : Directory) (name : String)
    (octets : List UInt8) :
    (directory.withFile name octets).nameLimit = directory.nameLimit := rfl

@[simp] theorem nameLimit_erase (directory : Directory) (name : String) :
    (directory.erase name).nameLimit = directory.nameLimit := rfl

@[simp] theorem admits_withFile (directory : Directory) (name other : String)
    (octets : List UInt8) :
    (directory.withFile name octets).admits other = directory.admits other :=
  rfl

@[simp] theorem admits_erase (directory : Directory) (name other : String) :
    (directory.erase name).admits other = directory.admits other := rfl

theorem get?_withFile (directory : Directory) (name other : String)
    (octets : List UInt8) :
    (directory.withFile name octets).get? other =
      if other = name then some (.file octets) else directory.get? other :=
  SortedMap.get?_insert directory.contents name other (.file octets)

theorem get?_erase (directory : Directory) (name other : String) :
    (directory.erase name).get? other =
      if other = name then none else directory.get? other :=
  SortedMap.get?_erase directory.contents name other

theorem file?_withFile_self {name : String} (directory : Directory)
    (admitted : directory.admits name = true) (octets : List UInt8) :
    (directory.withFile name octets).file? name = some octets := by
  simp [file?, get?_withFile, admitted]

theorem file?_withFile_of_ne {name other : String} (different : other ≠ name)
    (directory : Directory) (octets : List UInt8) :
    (directory.withFile name octets).file? other = directory.file? other := by
  simp [file?, get?_withFile, different]

/-- Of two files that take the same name the last one stays. -/
theorem withFile_withFile (directory : Directory) (name : String)
    (octets others : List UInt8) :
    (directory.withFile name octets).withFile name others =
      directory.withFile name others := by
  refine ext_get? rfl fun other => ?_
  simp only [get?_withFile]
  split <;> rfl

theorem get?_of_file? {directory : Directory} {name : String}
    {octets : List UInt8} (isFile : directory.file? name = some octets) :
    directory.get? name = some (.file octets) := by
  unfold file? at isFile
  split at isFile
  · next found =>
      obtain rfl := Option.some.inj isFile
      exact found
  · cases isFile

theorem file?_erase_of_ne {name other : String} (different : other ≠ name)
    (directory : Directory) :
    (directory.erase name).file? other = directory.file? other := by
  simp [file?, get?_erase, different]

theorem file?_erase_self (directory : Directory) (name : String) :
    (directory.erase name).file? name = none := by
  simp [file?, get?_erase]

theorem HasNoFolder.withFile {directory : Directory}
    (noFolder : directory.HasNoFolder) (name : String)
    (octets : List UInt8) : (directory.withFile name octets).HasNoFolder := by
  intro other isFolder
  rw [get?_withFile] at isFolder
  split at isFolder
  · cases isFolder
  · exact noFolder other isFolder

theorem HasNoFolder.erase {directory : Directory}
    (noFolder : directory.HasNoFolder) (name : String) :
    (directory.erase name).HasNoFolder := by
  intro other isFolder
  rw [get?_erase] at isFolder
  split at isFolder
  · cases isFolder
  · exact noFolder other isFolder

theorem obstacle?_of_admits {directory : Directory} {name : String}
    (admitted : directory.admits name = true) :
    directory.obstacle? name =
      if directory.get? name = some .folder then some .directory else none := by
  simp [obstacle?, admitted]

theorem obstacle?_eq_longName {directory : Directory} {name : String}
    (refused : directory.admits name = false) :
    directory.obstacle? name = some .longName := by
  simp [obstacle?, refused]

theorem obstacle?_eq_none_iff {directory : Directory} {name : String} :
    directory.obstacle? name = none ↔
      directory.admits name = true ∧ directory.get? name ≠ some .folder := by
  cases admitted : directory.admits name <;> simp [obstacle?, admitted]

end ScheduledJobs.Directory
