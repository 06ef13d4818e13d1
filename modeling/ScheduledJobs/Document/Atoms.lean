import ScheduledJobs.Document.Value
import ScheduledJobs.Instant.Text

/-!
# Document values of plain types
-/

namespace ScheduledJobs.Document.Value

def ofInteger (number : Int32) : Value := .integer number.toInt

def ofInstant (instant : Instant) : Value := .text instant.text

def ofTextTable (map : SortedMap String) : Value :=
  .table (map.entries.map fun entry => (entry.1, .text entry.2))

end ScheduledJobs.Document.Value
