import ScheduledJobs.SortedMap
import ScheduledJobs.Text.Utf8

/-!
# Directories of files

A directory holds files and further directories under names of limited length.
Its files change in steps: they are created empty, grow, or get another name.
-/

namespace ScheduledJobs

open Text

/-- Why a file or a directory cannot be used. -/
inductive FileError where
  | absent
  /-- A file is needed where there is a directory. -/
  | directory
  /-- A directory is needed where there is a file. -/
  | notDirectory
  /-- There is something already. -/
  | occupied
  | longName
  /-- The name contains the character that ends names. -/
  | endedName
  /-- The file is not well-formed UTF-8. -/
  | notText
  deriving DecidableEq

def FileError.message : FileError → String
  | .absent => "No such file or directory (os error 2)"
  | .directory => "Is a directory (os error 21)"
  | .notDirectory => "Not a directory (os error 20)"
  | .occupied => "File exists (os error 17)"
  | .longName => "File name too long (os error 36)"
  | .endedName => "file name contained an unexpected NUL byte"
  | .notText => "stream did not contain valid UTF-8"

/-- What a name in a directory stands for. -/
inductive Entry where
  | file (octets : List UInt8)
  | folder
  deriving DecidableEq

/-- Greatest number of octets of a name. -/
def Directory.longestName : Nat := 255

/-- A directory: what is in it, by name, and how many octets a name may have
when the directory is used. There may be fewer than in any name, because the
way to the directory takes up a part of a path. -/
structure Directory where
  contents : SortedMap Entry := ∅
  nameLimit : Nat := Directory.longestName
  deriving DecidableEq

namespace Directory

instance : EmptyCollection Directory := ⟨{}⟩

instance : Inhabited Directory := ⟨∅⟩

def get? (directory : Directory) (name : String) : Option Entry :=
  directory.contents.get? name

/-- The directory in which the name stands for the entry. -/
def insert (directory : Directory) (name : String) (entry : Entry) :
    Directory :=
  { directory with contents := directory.contents.insert name entry }

/-- The directory in which the name stands for nothing. -/
def erase (directory : Directory) (name : String) : Directory :=
  { directory with contents := directory.contents.erase name }

def admits (directory : Directory) (name : String) : Bool :=
  Utf8.length name.toList ≤ directory.nameLimit

def file? (directory : Directory) (name : String) : Option (List UInt8) :=
  match directory.admits name, directory.get? name with
  | true, some (.file octets) => some octets
  | _, _ => none

/-- The directory with a file of the given contents. -/
def withFile (directory : Directory) (name : String) (octets : List UInt8) :
    Directory :=
  directory.insert name (.file octets)

/-- Why no file can take the name, if anything is against it. -/
def obstacle? (directory : Directory) (name : String) : Option FileError :=
  if !directory.admits name then some .longName
  else if directory.get? name = some .folder then some .directory
  else none

/-- One step by which the files of a directory change. -/
inductive Step where
  /-- Create an empty file, or empty the file that has the name. -/
  | create (name : String)
  /-- Write octets at the end of a file. -/
  | append (name : String) (octets : List UInt8)
  /-- Wait until the contents of a file are safe. -/
  | flush (name : String)
  /-- Give a file another name, and drop the file that had it. -/
  | rename (source target : String)
  deriving DecidableEq

/-- The directory after a step, or what is against the step. -/
def step (directory : Directory) : Step → Except FileError Directory
  | .create name =>
      match directory.obstacle? name with
      | some error => .error error
      | none => .ok (directory.withFile name [])
  | .append name octets =>
      match directory.file? name with
      | some written => .ok (directory.withFile name (written ++ octets))
      | none => .error .absent
  | .flush name =>
      match directory.file? name with
      | some _ => .ok directory
      | none => .error .absent
  | .rename source target =>
      match directory.file? source, directory.obstacle? target with
      | none, _ => .error .absent
      | some _, some error => .error error
      | some written, none =>
          .ok ((directory.erase source).withFile target written)

/-- Take steps in turn up to the first one that cannot be taken; the result
tells which one that is, what is against it, and what the directory is then. -/
def steps (directory : Directory) :
    List Step → Except (Step × FileError) Unit × Directory
  | [] => (.ok (), directory)
  | first :: others =>
      match directory.step first with
      | .ok next => steps next others
      | .error error => (.error (first, error), directory)

@[simp] theorem steps_nil (directory : Directory) :
    directory.steps [] = (.ok (), directory) := rfl

theorem steps_cons_of_ok {directory next : Directory} {first : Step}
    (taken : directory.step first = .ok next) (others : List Step) :
    directory.steps (first :: others) = next.steps others := by
  simp only [steps, taken]

end Directory

end ScheduledJobs
