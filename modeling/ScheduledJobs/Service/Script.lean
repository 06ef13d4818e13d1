import ScheduledJobs.Service.Basic

/-!
# Scripted services

A scripted service gives the answers of a list in turn, whatever it is asked,
and knows no job when the list is exhausted. It keeps a log of the calls.
-/

namespace ScheduledJobs.Service

/-- A call on a service. -/
inductive Call where
  | createOrUpdate (id : JobId) (definition : Definition)
  | get (id : JobId)
  | delete (id : JobId)
  deriving DecidableEq

/-- The answers still to be given, and the calls so far, the last one first. -/
structure Script where
  answers : List (Except Error Definition)
  calls : List Call := []

namespace Script

/-- Log a call and give the next answer. -/
def take (call : Call) (script : Script) :
    Except Error Definition × Script :=
  match script.answers with
  | [] => (.error .notFound, { script with calls := call :: script.calls })
  | answer :: answers =>
      (answer, { answers, calls := call :: script.calls })

def service : Service Script where
  createOrUpdate id definition := take (.createOrUpdate id definition)
  get id := take (.get id)
  delete id script :=
    let (answer, next) := take (.delete id) script
    (answer.map fun _ => (), next)

end Script

end ScheduledJobs.Service
