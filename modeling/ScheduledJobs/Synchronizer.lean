import ScheduledJobs.Exchange.Incoming
import ScheduledJobs.Exchange.Outgoing
import ScheduledJobs.Job.Validation
import ScheduledJobs.Service.Basic

/-!
# Bringing a service in line with declarations

A job is checked, sent, and read back under the id that the service gives it.
Nothing is sent for a job that breaks a rule. A job that the service does not
know is no failure when it is read or deleted.
-/

namespace ScheduledJobs

open Text

/-- What is being attempted when a service fails. -/
inductive Operation where
  | creatingOrUpdating
  | readingBack
  | reading
  | deleting
  deriving DecidableEq

/-- The name of an operation in messages. -/
def Operation.name : Operation → String
  | .creatingOrUpdating => "creating/updating"
  | .readingBack => "reading back"
  | .reading => "reading"
  | .deleting => "deleting"

namespace Synchronizer

/-- Why a job cannot be brought in line. -/
inductive Failure where
  /-- The job breaks rules. -/
  | invalid (name : String) (violations : List Violation)
  /-- The service fails. -/
  | service (operation : Operation) (name resourceGroup : String)
      (cause : Service.Error)
  /-- An id is not the id of a job. -/
  | identifier (cause : JobId.Error)
  deriving DecidableEq

namespace Failure

/-- What has gone wrong. -/
def message : Failure → String
  | .invalid name violations =>
      "invalid scheduler job " ++ Quoted.quote name ++ ": " ++
        Violation.messages violations
  | .service operation name resourceGroup cause =>
      "error " ++ operation.name ++ " Scheduler Job " ++ Quoted.quote name ++
        " (Resource Group " ++ Quoted.quote resourceGroup ++ "): " ++
        cause.message
  | .identifier cause => cause.message

/-- What lies behind the failure, if it is not the failure itself. -/
def cause? : Failure → Option String
  | .invalid _ violations => some (Violation.messages violations)
  | .service _ _ _ cause => some cause.message
  | .identifier _ => none

/-- The failure of a service in an operation on the job with the given id. -/
def ofService (operation : Operation) (id : JobId) (cause : Service.Error) :
    Failure :=
  .service operation id.name id.resourceGroup cause

end Failure

end Synchronizer

/-- What a service holds for a job. -/
structure Observed where
  /-- The id under which it was read. -/
  id : String
  job : Job
  deriving BEq, Inhabited

/-- What comes of reading a job. -/
inductive Reading where
  | found (observed : Observed)
  /-- The service does not know the job. -/
  | gone

/-- A service with what is needed to send jobs to it. -/
structure Synchronizer (State : Type) where
  service : Service State
  environment : Environment
  subscription : String
  now : Instant

namespace Synchronizer

variable {State : Type} (synchronizer : Synchronizer State)

/-- The id under which a job is sent. -/
def jobId (job : Job) : JobId where
  subscription := synchronizer.subscription
  resourceGroup := job.resourceGroup
  collection := job.collection
  name := job.name

/-- Read the job with the given id. -/
def read (id : String) (state : State) : Except Failure Reading × State :=
  match JobId.ofText id with
  | .error error => (.error (.identifier error), state)
  | .ok jobId =>
      match synchronizer.service.get jobId state with
      | (.ok definition, next) =>
          (.ok (.found { id, job := definition.toJob jobId }), next)
      | (.error .notFound, next) => (.ok .gone, next)
      | (.error cause, next) =>
          (.error (.ofService .reading jobId cause), next)

/-- Delete the job with the given id. -/
def delete (id : String) (state : State) : Except Failure Unit × State :=
  match JobId.ofText id with
  | .error error => (.error (.identifier error), state)
  | .ok jobId =>
      match synchronizer.service.delete jobId state with
      | (.ok (), next) => (.ok (), next)
      | (.error .notFound, next) => (.ok (), next)
      | (.error cause, next) =>
          (.error (.ofService .deleting jobId cause), next)

/-- Read a job back that has just been sent, under the id that the service has
given it. -/
def readBack (sent : JobId) (stored : Definition) (state : State) :
    Except Failure Observed × State :=
  match synchronizer.read (stored.id.getD sent.text) state with
  | (.ok (.found observed), next) => (.ok observed, next)
  | (.ok .gone, next) =>
      (.error (.ofService .readingBack sent .notFound), next)
  | (.error failure, next) => (.error failure, next)

/-- Create or update a job and read it back. -/
def apply (job : Job) (state : State) : Except Failure Observed × State :=
  if job.isValid then
    let id := synchronizer.jobId job
    let definition :=
      job.toDefinition synchronizer.environment synchronizer.now
    match synchronizer.service.createOrUpdate id definition state with
    | (.error cause, next) =>
        (.error (.ofService .creatingOrUpdating id cause), next)
    | (.ok stored, next) => synchronizer.readBack id stored next
  else
    (.error (.invalid job.name job.violations), state)

end Synchronizer

end ScheduledJobs
