import ScheduledJobs.Document.Form
import ScheduledJobs.Document.Toml.Parser

/-!
# Reading typed values out of TOML
-/

namespace ScheduledJobs.Document.Toml

/-- Read a value of some type out of a document. -/
def read {α : Type} (reader : Reader α) (document : String) :
    Except ReadError α :=
  match parse? document with
  | some value => reader value
  | none => .error .malformed

end ScheduledJobs.Document.Toml
