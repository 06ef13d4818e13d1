import ScheduledJobs.Definition.Reading
import ScheduledJobs.Definition.Secrets
import ScheduledJobs.Definition.Writing
import ScheduledJobs.Fingerprint
import ScheduledJobs.Service.Basic
import ScheduledJobs.Store.Basic
import ScheduledJobs.Text.LowerCase

/-!
# The local emulator

A stand-in for the service keeps definitions in a store. It treats them as the
service does: secrets are dropped, the details of a certificate are filled in,
the names of days come back in lower case, and a job without a state is
enabled.
-/

namespace ScheduledJobs

open Definition Text

namespace Emulator

/-- The type of the resources that jobs are. -/
def resourceType : String := "Microsoft.Scheduler/jobCollections/jobs"

/-- The state of a job for which none is given. -/
def standardState : String := "Enabled"

/-- Days for which a certificate is valid. -/
def certificateDays : Nat := 365

/-- The thumbprint of a certificate. -/
def thumbprint (pfx : String) : String :=
  String.ofList (Hexadecimal.capitals 16
    (Fingerprint.ofOctets (Utf8.encode pfx)).toNat)

/-- The authentication with the details of a certificate that is sent in it,
for the job with the given name. -/
def withDetails (name : String) (expiry : Instant) :
    Authentication → Authentication
  | .certificate given =>
      match given.pfx with
      | some pfx =>
          .certificate { given with
            thumbprint := some (thumbprint pfx)
            subjectName := some ("CN=" ++ name)
            expiration := some expiry }
      | none => .certificate given
  | other => other

def sealedRequest (name : String) (expiry : Instant) (request : Request) :
    Request :=
  { request with
    authentication := request.authentication.map fun authentication =>
      (withDetails name expiry authentication).withoutSecrets }

def sealedErrorAction (name : String) (expiry : Instant)
    (action : ErrorAction) : ErrorAction :=
  { action with request := action.request.map (sealedRequest name expiry) }

def sealedAction (name : String) (expiry : Instant) (action : Action) :
    Action :=
  { action with
    request := action.request.map (sealedRequest name expiry)
    errorAction := action.errorAction.map (sealedErrorAction name expiry) }

/-- The numbered day with its name in lower case. -/
def lowerDay (numbered : NumberedDay) : NumberedDay :=
  { numbered with day := LowerCase.lower numbered.day }

/-- The timetable with the names of days in lower case. -/
def lowerTimetable (timetable : Timetable) : Timetable :=
  { timetable with
    weekDays := timetable.weekDays.map (List.map LowerCase.lower)
    monthlyOccurrences :=
      timetable.monthlyOccurrences.map (List.map lowerDay) }

def lowerRepetition (repetition : Repetition) : Repetition :=
  { repetition with timetable := repetition.timetable.map lowerTimetable }

def storedProperties (name : String) (expiry : Instant)
    (properties : Properties) : Properties :=
  { properties with
    state := some (properties.state.getD standardState)
    action := properties.action.map (sealedAction name expiry)
    repetition := properties.repetition.map lowerRepetition }

/-- The definition as it is stored under an id, when certificates expire at the
given time. -/
def stored (id : JobId) (expiry : Instant) (definition : Definition) :
    Definition where
  id := some id.text
  name := some id.name
  resourceType := some resourceType
  properties :=
    some (storedProperties id.name expiry (definition.properties.getD {}))

/-- Whether the request is authenticated by a certificate that is sent in
it. -/
def sendsCertificate (request : Request) : Bool :=
  match request.authentication with
  | some (.certificate given) => given.pfx.isSome
  | _ => false

/-- Whether a certificate is sent in the definition. -/
def needsExpiry (definition : Definition) : Bool :=
  let action? := definition.properties.bind Properties.action
  let requests :=
    (action?.bind Action.request).toList ++
      ((action?.bind Action.errorAction).bind ErrorAction.request).toList
  requests.any sendsCertificate

/-- The key under which the definition of a job is stored. -/
def key (id : JobId) : List UInt8 := Store.namespaced "remote" id.text

/-- A failure of the store, in the terms of a service. -/
def storeError (root : String) (failure : Store.Failure) : Service.Error :=
  .backend [failure.attempt root, failure.cause]

/-- Store a definition at the given time. -/
def createOrUpdate (root : String) (now : Instant) (id : JobId)
    (definition : Definition) (directory : Directory) :
    Except Service.Error Definition × Directory :=
  let expiry? := now.laterByDays? certificateDays
  if expiry?.isNone && needsExpiry definition then
    (.error .beyondCalendar, directory)
  else
    let kept := stored id (expiry?.getD now) definition
    match Store.save directory (key id) kept.toValue with
    | (.ok (), written) => (.ok kept, written)
    | (.error failure, left) => (.error (storeError root failure), left)

def get (root : String) (id : JobId) (directory : Directory) :
    Except Service.Error Definition × Directory :=
  match Store.load Definition.read directory (key id) with
  | .ok (some definition) => (.ok definition, directory)
  | .ok none => (.error .notFound, directory)
  | .error failure => (.error (storeError root failure), directory)

def delete (id : JobId) (directory : Directory) :
    Except Service.Error Unit × Directory :=
  match Store.delete directory (key id) with
  | (true, rest) => (.ok (), rest)
  | (false, rest) => (.error .notFound, rest)

/-- The emulator over the store with the given root, at the given time. -/
def service (root : String) (now : Instant) : Service Directory where
  createOrUpdate := createOrUpdate root now
  get := get root
  delete := delete

end Emulator

end ScheduledJobs
