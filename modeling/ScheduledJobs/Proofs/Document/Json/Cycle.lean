import ScheduledJobs.Document.Form
import ScheduledJobs.Proofs.Document.Json.RoundTrip

/-!
# Cycles through JSON

An item survives a cycle when it comes back as it was after it has been written
as JSON and read again.
-/

namespace ScheduledJobs.Document.Json

variable {α : Type} {read : Reader α} {write : α → Value} {item : α}

/-- What is read of the text that is written for an item, unless that is no
JSON text. -/
def cycled (read : Reader α) (write : α → Value) (item : α) :
    Option (Except ReadError α) :=
  (parse? (render (write item))).map read

/-- Whether an item comes back from a cycle as it was, and is written as the
same text after it. -/
structure Survives (read : Reader α) (write : α → Value) (item : α) :
    Prop where
  comesBack : cycled read write item = some (.ok item)
  sameText : ∀ back, cycled read write item = some (.ok back) →
    render (write back) = render (write item)

theorem cycled_of_fitsIn (fits : (write item).FitsIn depthLimit) :
    cycled read write item = some (read (write item)) := by
  rw [cycled, parse?, ofOctets?_render fits.plain fits.shallow,
    Option.map_some]

theorem survives_of_fitsIn (fits : (write item).FitsIn depthLimit)
    (reads : read (write item) = .ok item) : Survives read write item := by
  have comesBack : cycled read write item = some (.ok item) := by
    rw [cycled_of_fitsIn fits, reads]
  refine ⟨comesBack, fun back isBack => ?_⟩
  rw [comesBack] at isBack
  rw [Except.ok.inj (Option.some.inj isBack)]

end ScheduledJobs.Document.Json
