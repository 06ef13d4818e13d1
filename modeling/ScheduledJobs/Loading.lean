import ScheduledJobs.Document.Toml.Reading
import ScheduledJobs.FileTree

/-!
# Loading documents from files

A file of settings or of a job is read as a whole and then taken apart.
-/

namespace ScheduledJobs

open Document

/-- Why a document cannot be loaded from a file. -/
inductive LoadFailure where
  | unreadable (path : String) (cause : FileError)
  | malformed (path : String) (cause : ReadError)
  deriving DecidableEq

namespace LoadFailure

def attempt : LoadFailure → String
  | .unreadable path _ => "read " ++ path
  | .malformed path _ => "parse " ++ path

def cause : LoadFailure → String
  | .unreadable _ cause => cause.message
  | .malformed _ cause => "TOML parse error: " ++ cause.message

end LoadFailure

def FileTree.load {α : Type} (read : Reader α) (tree : FileTree)
    (base path : String) : Except LoadFailure α := do
  let text ← (tree.readText base path).mapError (.unreadable path)
  (Toml.read read text).mapError (.malformed path)

end ScheduledJobs
