import ScheduledJobs.CommandLine.Failure
import ScheduledJobs.Document.Json.Printer
import ScheduledJobs.Service.Emulator
import ScheduledJobs.Service.ResourceManager
import ScheduledJobs.Settings.Location
import ScheduledJobs.Store.Record

/-!
# Commands on the store

A session gives the commands a service and the store of records. The emulator
keeps its definitions in the same store. A record is written after the service
has answered and dropped after the service no longer has the job.
-/

namespace ScheduledJobs.CommandLine

open Document

/-- What the clocks tell when a command looks at them. -/
structure Times where
  /-- When a definition of the job is made. -/
  now : Instant
  /-- When the emulator gives a certificate its date. -/
  stamp : Instant := now
  /-- When a record is made. -/
  recordedAt : Instant := now

/-- What the commands on the store work with. -/
structure Session where
  synchronizer : Synchronizer Directory
  /-- Where the store is. -/
  root : String
  /-- When a record is made. -/
  recordedAt : Instant

namespace Session

/-- The subscription of jobs of the emulator when none is set. -/
def localSubscription : String := "local"

/-- The subscription in which the emulator holds jobs. -/
def subscriptionOf (settings : Settings) : String :=
  if settings.subscription.isEmpty then localSubscription
  else settings.subscription

def ofEmulator (settings : Settings) (root : String) (times : Times) :
    Session where
  synchronizer := {
    service := Emulator.service root times.stamp
    environment := settings.environment
    subscription := subscriptionOf settings
    now := times.now }
  root := root
  recordedAt := times.recordedAt

/-- The resource manager, for which a subscription and a token are needed. -/
def ofResourceManager (settings : Settings) (settingsFile root : String)
    (token? : Option String) (times : Times) : Except Failure Session :=
  if settings.subscription.isEmpty then
    .error (.noSubscription settingsFile)
  else
    match ResourceManager.fromVariable settings.environment token? with
    | .error error => .error (.service error)
    | .ok manager =>
        .ok {
          synchronizer := {
            service := manager.service
            environment := settings.environment
            subscription := settings.subscription
            now := times.now }
          root
          recordedAt := times.recordedAt }

/-- The session for the kind of service that is set. -/
def ofSettings (settings : Settings) (settingsFile root : String)
    (token? : Option String) (times : Times) : Except Failure Session :=
  match settings.backend with
  | .emulator => .ok (ofEmulator settings root times)
  | .resourceManager =>
      ofResourceManager settings settingsFile root token? times

/-- The record of a job in the store with the given root. -/
def record (root : String) (job : Job) (directory : Directory) :
    Except Failure (Option Record) :=
  (Record.load directory job.address).mapError (.store root)

variable (session : Session)

/-- Record what has been observed of a job, and print its id. -/
def keep (job : Job) (observed : Observed) (directory : Directory) :
    Except Failure String × Directory :=
  let record : Record :=
    { id := observed.id, observed := observed.job,
      syncedAt := session.recordedAt }
  match record.save directory job.address with
  | (.ok (), written) => (.ok (record.id ++ "\n"), written)
  | (.error failure, left) => (.error (.store session.root failure), left)

def apply (job : Job) (directory : Directory) :
    Except Failure String × Directory :=
  match session.synchronizer.apply job directory with
  | (.ok observed, next) => session.keep job observed next
  | (.error failure, next) => (.error (.synchronizer failure), next)

/-- Read a job again and renew its record; the record of a job that the
service no longer has is dropped. -/
def refresh (job : Job) (directory : Directory) :
    Except Failure String × Directory :=
  match record session.root job directory with
  | .error failure => (.error failure, directory)
  | .ok none => (.error (.unmanaged job.address), directory)
  | .ok (some record) =>
      match session.synchronizer.read record.id directory with
      | (.ok (.found observed), next) => session.keep job observed next
      | (.ok .gone, next) =>
          (.ok (job.address ++ ": gone\n"),
            (Record.forget next job.address).2)
      | (.error failure, next) => (.error (.synchronizer failure), next)

def destroy (job : Job) (directory : Directory) :
    Except Failure String × Directory :=
  match record session.root job directory with
  | .error failure => (.error failure, directory)
  | .ok none => (.ok (job.address ++ ": absent\n"), directory)
  | .ok (some record) =>
      match session.synchronizer.delete record.id directory with
      | (.ok (), next) =>
          (.ok (job.address ++ ": destroyed\n"),
            (Record.forget next job.address).2)
      | (.error failure, next) => (.error (.synchronizer failure), next)

end Session

/-- The record of a job as it is shown. -/
def showRecord (root : String) (job : Job) (directory : Directory) :
    Except Failure String :=
  match Session.record root job directory with
  | .error failure => .error failure
  | .ok none => .error (.unrecorded job.address)
  | .ok (some record) => .ok (Json.renderIndented record.toValue ++ "\n")

def validate (file : String) (job : Job) : Except Failure String :=
  if job.isValid then .ok (job.address ++ ": ok\n")
  else .error (.broken file job.violations)

/-- What would be sent for a job, without secrets. -/
def plan (environment : Environment) (now : Instant) (file : String)
    (job : Job) : Except Failure String :=
  if job.isValid then
    .ok (Json.renderIndented
      (job.toDefinition environment now).withoutSecrets.toValue ++ "\n")
  else .error (.invalid file job.violations)

end ScheduledJobs.CommandLine
