import ScheduledJobs.Path
import ScheduledJobs.Directory

/-!
# Trees of files

A tree holds directories under their absolute paths, and every directory but
the root stands as a folder in another one. Following a path needs every
directory on the way, also those that it leaves again.
-/

namespace ScheduledJobs

open Text

/-- The directories, by path. -/
abbrev FileTree := SortedMap Directory

namespace FileTree

/-- The tree of an empty root. -/
def bare : FileTree := SortedMap.insert ∅ (Path.ofNames []) ∅

/-- The directory that a list of names leads to. -/
def directory (tree : FileTree) (place : List String) : Directory :=
  (tree.get? (Path.ofNames place)).getD ∅

def withContents (tree : FileTree) (place : List String)
    (contents : Directory) : FileTree :=
  tree.insert (Path.ofNames place) contents

/-- The tree with a directory in another one; it keeps what it holds. -/
def withFolder (tree : FileTree) (place : List String) (name : String) :
    FileTree :=
  let inner := place ++ [name]
  (tree.withContents inner (tree.directory inner)).withContents place
    ((tree.directory place).insert name .folder)

def withFile (tree : FileTree) (place : List String) (name : String)
    (octets : List UInt8) : FileTree :=
  tree.withContents place ((tree.directory place).withFile name octets)

def enter (tree : FileTree) (place : List String) (name : String) :
    Except FileError (List String) :=
  if !Path.moves name then .ok place
  else if name = ".." then .ok place.dropLast
  else
    match (tree.directory place).get? name with
    | some .folder => .ok (place ++ [name])
    | some (.file _) => .error .notDirectory
    | none =>
        if (tree.directory place).admits name then .error .absent
        else .error .longName

/-- The directory that names lead to from another one. -/
def walk (tree : FileTree) (place names : List String) :
    Except FileError (List String) :=
  names.foldlM tree.enter place

/-- The directory from which a path is followed. -/
def start (base path : String) : List String :=
  if Path.isAbsolute path then []
  else (Path.names base).filter fun name => !name.isEmpty

def checkPath (path : String) : Except FileError Unit :=
  if Path.isEnded path then .error .endedName
  else if path.isEmpty then .error .absent
  else if !Path.isFollowed path then .error .longName
  else .ok ()

/-- The directory of a file, and the name of the file in it. -/
def find (tree : FileTree) (base path : String) :
    Except FileError (List String × String) := do
  checkPath path
  let names := Path.names path
  let place ← tree.walk (start base path) names.dropLast
  let name := names.getLastD ""
  match tree.enter place name with
  | .ok _ => throw .directory
  | .error .longName => throw .longName
  | .error _ => return (place, name)

def read (tree : FileTree) (base path : String) :
    Except FileError (List UInt8) := do
  let (place, name) ← tree.find base path
  match (tree.directory place).file? name with
  | some octets => return octets
  | none => throw .absent

def readText (tree : FileTree) (base path : String) :
    Except FileError String := do
  match Utf8.decode? (← tree.read base path) with
  | some text => return text
  | none => throw .notText

/-- Give a file new contents; the file is created when it is missing. -/
def write (tree : FileTree) (base path : String) (octets : List UInt8) :
    Except FileError FileTree := do
  let (place, name) ← tree.find base path
  return tree.withFile place name octets

/-- Create one directory; every other one on the way has to be there. -/
def create (tree : FileTree) (place names : List String) :
    Except FileError FileTree :=
  match (names.reverse.dropWhile String.isEmpty) with
  | [] => .error .occupied
  | name :: before => do
      let place ← tree.walk place before.reverse
      if name = "." ∨ name = ".." then
        throw .occupied
      match tree.enter place name with
      | .ok _ | .error .notDirectory => throw .occupied
      | .error .absent => return tree.withFolder place name
      | .error error => throw error

/-- Create a directory unless it is there. When something is missing on the way
to it, what is missing is prepared first. -/
def ensure (tree : FileTree) (place names : List String)
    (prepare : FileTree → Except FileError Unit × FileTree) :
    Except FileError Unit × FileTree :=
  let settle (tree : FileTree) : Except FileError Unit × FileTree :=
    match tree.create place names with
    | .ok created => (.ok (), created)
    | .error error =>
        if (tree.walk place names).isOk then (.ok (), tree)
        else (.error error, tree)
  match tree.create place names with
  | .error .absent =>
      match prepare tree with
      | (.ok (), prepared) => settle prepared
      | failed => failed
  | _ => settle tree

/-- Create the directories along names that are given from the last one to the
first. -/
def ensureAll (place : List String) :
    List String → FileTree → Except FileError Unit × FileTree
  | [], tree => (.ok (), tree)
  | name :: before, tree =>
      tree.ensure place (name :: before).reverse (ensureAll place before)

/-- Create a directory with everything on the way to it. The way is prepared
without the names that lead nowhere, whereas the directory itself is created
under its path as it is. -/
def createDirectory (tree : FileTree) (base path : String) :
    Except FileError Unit × FileTree :=
  match checkPath path with
  | .error error => (.error error, tree)
  | .ok () =>
      let place := start base path
      let names := Path.names path
      tree.ensure place names
        (ensureAll place (names.filter Path.moves).dropLast.reverse)

def locate (tree : FileTree) (base path : String) :
    Except FileError (List String) := do
  checkPath path
  tree.walk (start base path) (Path.names path)

end FileTree

end ScheduledJobs
