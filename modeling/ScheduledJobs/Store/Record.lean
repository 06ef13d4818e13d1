import ScheduledJobs.Job.Reading
import ScheduledJobs.Job.Writing
import ScheduledJobs.Store.Basic

/-!
# Records of jobs

For every job that is managed, the store holds what was seen of it last.
-/

namespace ScheduledJobs

open Document

/-- What was seen of a job last. -/
structure Record where
  /-- The id under which the service knows the job. -/
  id : String
  observed : Job
  syncedAt : Instant
  deriving BEq, Inhabited

namespace Record

def form : Form Record :=
  mk <$> .required "id" Reader.text <*> .required "observed" Job.read <*>
    .required "synced_at" Reader.instant

def read : Reader Record := form.read

def toValue (record : Record) : Value :=
  .ofFields [
    ("id", some (.text record.id)),
    ("observed", some record.observed.toValue),
    ("synced_at", some (.ofInstant record.syncedAt))]

/-- The key of the record of the job at an address. -/
def key (address : String) : List UInt8 := Store.namespaced "jobs" address

def load (directory : Directory) (address : String) :
    Except Store.Failure (Option Record) :=
  Store.load read directory (key address)

def save (directory : Directory) (address : String) (record : Record) :
    Except Store.Failure Unit × Directory :=
  Store.save directory (key address) record.toValue

/-- Drop the record under an address, and tell whether there was one. -/
def forget (directory : Directory) (address : String) : Bool × Directory :=
  Store.delete directory (key address)

end Record

end ScheduledJobs
