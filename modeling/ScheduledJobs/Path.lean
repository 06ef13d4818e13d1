import ScheduledJobs.Text.Segments
import ScheduledJobs.Text.Utf8

/-!
# Paths

A path is a text of names with slashes between them. One that begins with a
slash starts at the root, any other one at some directory.
-/

namespace ScheduledJobs.Path

open Text

/-- Whether the path starts at the root. -/
def isAbsolute (path : String) : Bool := path.startsWith "/"

/-- The second path seen from the directory that the first one leads to. -/
def join (directory path : String) : String :=
  if isAbsolute path then path
  else if directory.endsWith "/" then directory ++ path
  else directory ++ "/" ++ path

/-- The names of a path; some of them may be empty. -/
def names (path : String) : List String :=
  (segments '/' path.toList).map String.ofList

/-- The absolute path through directories with the given names. -/
def ofNames (names : List String) : String :=
  "/" ++ String.intercalate "/" names

/-- Whether the name leads away from a directory. -/
def moves (name : String) : Bool := name != "" && name != "."

/-- Greatest number of octets of a path. -/
def limit : Nat := 4095

/-- Whether the path is short enough to be followed. -/
def isFollowed (path : String) : Bool := Utf8.length path.toList ≤ limit

/-- Whether the path has the character that ends names. -/
def isEnded (path : String) : Bool := path.toList.contains '\x00'

end ScheduledJobs.Path
