import ScheduledJobs.Document.Toml.Reading
import ScheduledJobs.Job.Basic

/-!
# Reading job declarations

A job is read from a table whose keys are the names of its parts. An action
gives each way of authenticating in a table of its own, of which at most one
may be present.
-/

namespace ScheduledJobs

open Document

def BasicCredentials.form : Form BasicCredentials :=
  mk <$> .required "username" Reader.text <*> .required "password" Reader.text

def CertificateCredentials.form : Form CertificateCredentials :=
  mk <$> .required "pfx" Reader.text <*> .required "password" Reader.text <*>
    .optional "thumbprint" Reader.text <*>
    .optional "expiration" Reader.instant <*>
    .optional "subject_name" Reader.text

def DirectoryCredentials.form : Form DirectoryCredentials :=
  mk <$> .required "tenant_id" Reader.text <*>
    .required "client_id" Reader.text <*> .required "secret" Reader.text <*>
    .optional "audience" Reader.text

namespace WebAction

/-- An action as its table gives it, with every way of authenticating. -/
structure Block where
  url : String
  method : String
  body : Option String
  headers : SortedMap String
  basic : Option BasicCredentials
  certificate : Option CertificateCredentials
  directory : Option DirectoryCredentials

def Block.form (surplus : Surplus) : Form Block :=
  mk <$> .required "url" Reader.text <*> .required "method" Reader.text <*>
    .optional "body" Reader.text <*>
    .defaulted "headers" ∅ Reader.textTable <*>
    .optional "authentication_basic"
      (BasicCredentials.form.readWith surplus) <*>
    .optional "authentication_certificate"
      (CertificateCredentials.form.readWith surplus) <*>
    .optional "authentication_active_directory"
      (DirectoryCredentials.form.readWith surplus)

/-- The ways of authenticating that are given, with their keys. -/
def Block.credentials (block : Block) : List (String × Credentials) :=
  (block.basic.map fun given =>
      ("authentication_basic", Credentials.basic given)).toList ++
    (block.certificate.map fun given =>
      ("authentication_certificate", Credentials.certificate given)).toList ++
    (block.directory.map fun given =>
      ("authentication_active_directory", Credentials.directory given)).toList

/-- The action of a block; an empty body is no body. -/
def ofBlock (block : Block) : Except ReadError WebAction :=
  let withCredentials (credentials : Option Credentials) : WebAction :=
    { url := block.url
      method := block.method
      body := block.body.filter fun body => !body.isEmpty
      headers := block.headers
      credentials }
  match block.credentials with
  | [] => .ok (withCredentials none)
  | [(_, given)] => .ok (withCredentials (some given))
  | several => .error (.conflictingAuthentication (several.map Prod.fst))

def read (surplus : Surplus) : Reader WebAction := fun value => do
  ofBlock (← (Block.form surplus).readWith surplus value)

end WebAction

def FixedRetry.form : Form FixedRetry :=
  mk <$> .defaulted "interval" "00:00:30" Reader.text <*>
    .defaulted "count" 4 Reader.integer

/-- Read how often a request is repeated; null is never. -/
def Retry.read (surplus : Surplus) : Reader Retry := fun value => do
  let fixed? ← Reader.nullable (FixedRetry.form.readWith surplus) value
  return fixed?.elim .never .fixed

def DayName.read : Reader DayName := fun value =>
  (Reader.text value).map DayName.mk

def MonthlyOccurrence.form : Form MonthlyOccurrence :=
  mk <$> .required "day" DayName.read <*>
    .required "occurrence" Reader.integer

def Schedule.form : Form Schedule :=
  mk <$> Presence.field "minutes" Reader.integer <*>
    Presence.field "hours" Reader.integer <*>
    Presence.field "week_days" DayName.read <*>
    Presence.field "month_days" Reader.integer <*>
    Presence.field "monthly_occurrences" MonthlyOccurrence.form.read

/-- The entries of a recurrence that do not belong to its schedule. -/
def Recurrence.form : Form Recurrence :=
  (fun frequency interval count endTime =>
      { frequency, interval, count, endTime }) <$>
    .required "frequency" Reader.text <*>
    .defaulted "interval" 1 Reader.integer <*>
    .optional "count" Reader.integer <*>
    .optional "end_time" Reader.instant

/-- Read a recurrence; the entries of its schedule stand in the same table and
are looked at last. -/
def Recurrence.read : Reader Recurrence := fun value => do
  let entries ← Reader.entries value
  let recurrence ← form.ofEntries entries
  unless Value.haveReadableValues entries do
    throw .malformed
  return { recurrence with schedule := ← Schedule.form.ofEntries entries }

def Job.form (surplus : Surplus) : Form Job :=
  mk <$> .required "name" Reader.text <*>
    .required "resource_group_name" Reader.text <*>
    .required "job_collection_name" Reader.text <*>
    .optional "action_web" (WebAction.read surplus) <*>
    .optional "error_action_web" (WebAction.read surplus) <*>
    .defaulted "retry" .never (Retry.read surplus) <*>
    .optional "recurrence" Recurrence.read <*>
    .optional "start_time" Reader.instant <*>
    .optional "state" Reader.text

def Job.read : Reader Job := (form .refused).read

/-- Read a job that is declared in a file, where a list given in place of a
table may go on after the fields of the table. -/
def Job.readDeclared : Reader Job := (form .ignored).read

def Job.ofFile (text : String) : Except ReadError Job :=
  Toml.read readDeclared text

end ScheduledJobs
