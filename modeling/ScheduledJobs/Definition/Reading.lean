import ScheduledJobs.Definition.Basic
import ScheduledJobs.Document.Form

/-!
# Reading definitions

Every part of a definition may be missing or null, apart from the name of a
numbered day and the type of an authentication.
-/

namespace ScheduledJobs

open Document

namespace Definition

def ActionKind.read : Reader ActionKind := fun value =>
  (Reader.text value).map ofName

def RetryKind.read : Reader RetryKind := fun value =>
  (Reader.text value).map ofName

def BasicAuthentication.form : Form BasicAuthentication :=
  mk <$> .optional "username" Reader.text <*> .optional "password" Reader.text

def CertificateAuthentication.form : Form CertificateAuthentication :=
  mk <$> .optional "pfx" Reader.text <*> .optional "password" Reader.text <*>
    .optional "certificateThumbprint" Reader.text <*>
    .optional "certificateExpirationDate" Reader.instant <*>
    .optional "certificateSubjectName" Reader.text

def DirectoryAuthentication.form : Form DirectoryAuthentication :=
  mk <$> .optional "secret" Reader.text <*> .optional "tenant" Reader.text <*>
    .optional "audience" Reader.text <*> .optional "clientId" Reader.text

namespace Authentication

/-- The key of the entry that names the type of an authentication. -/
def typeKey : String := "type"

/-- Read the part of an authentication that depends on its type; nothing can
follow an unknown type in a list. -/
def readAs (type : String) : Reader Authentication := fun value =>
  match type with
  | "Basic" => (BasicAuthentication.form.read value).map .basic
  | "ClientCertificate" =>
      (CertificateAuthentication.form.read value).map .certificate
  | "ActiveDirectoryOAuth" =>
      (DirectoryAuthentication.form.read value).map .directory
  | _ =>
      match value with
      | .list (_ :: _) => .error .unusable
      | _ => .ok .unknown

/-- Inspect an entry of an authentication: its type has to be a text, and
everything else has to be readable. -/
def visit (entry : String × Value) : Except ReadError Unit :=
  if entry.1 = typeKey then (Reader.text entry.2).map fun _ => ()
  else if entry.2.isReadable then .ok ()
  else .error .malformed

/-- Read an authentication from a table with its type, or from a list that
begins with the type. -/
def read : Reader Authentication := fun value => do
  match value with
  | .list [] => throw (.missingField typeKey)
  | .list (type :: items) =>
      let type ← Reader.text type
      unless Value.areReadable items do
        throw .malformed
      readAs type (.list items)
  | value =>
      let entries ← Reader.entries value
      if 1 < (entries.filter fun entry => entry.1 == typeKey).length then
        throw .unusable
      entries.forM visit
      match entries.lookup typeKey with
      | none => throw (.missingField typeKey)
      | some type =>
          readAs (← Reader.text type)
            (.table (entries.filter fun entry => entry.1 != typeKey))

end Authentication

def Request.form : Form Request :=
  mk <$> .optional "authentication" Authentication.read <*>
    .optional "uri" Reader.text <*> .optional "method" Reader.text <*>
    .optional "body" Reader.text <*> .optional "headers" Reader.textTable

def RetryPolicy.form : Form RetryPolicy :=
  mk <$> .optional "retryType" RetryKind.read <*>
    .optional "retryInterval" Reader.text <*>
    .optional "retryCount" Reader.integer

def ErrorAction.form : Form ErrorAction :=
  mk <$> .optional "type" ActionKind.read <*>
    .optional "request" Request.form.read

def Action.form : Form Action :=
  mk <$> .optional "type" ActionKind.read <*>
    .optional "request" Request.form.read <*>
    .optional "retryPolicy" RetryPolicy.form.read <*>
    .optional "errorAction" ErrorAction.form.read

def NumberedDay.form : Form NumberedDay :=
  mk <$> .required "day" Reader.text <*>
    .optional "occurrence" Reader.integer

def Timetable.form : Form Timetable :=
  mk <$> .optional "weekDays" (Reader.list Reader.text) <*>
    .optional "hours" (Reader.list Reader.integer) <*>
    .optional "minutes" (Reader.list Reader.integer) <*>
    .optional "monthDays" (Reader.list Reader.integer) <*>
    .optional "monthlyOccurrences" (Reader.list NumberedDay.form.read)

def Repetition.form : Form Repetition :=
  mk <$> .optional "frequency" Reader.text <*>
    .optional "interval" Reader.integer <*>
    .optional "count" Reader.integer <*>
    .optional "endTime" Reader.instant <*>
    .optional "schedule" Timetable.form.read

def Properties.form : Form Properties :=
  mk <$> .optional "startTime" Reader.instant <*>
    .optional "action" Action.form.read <*>
    .optional "recurrence" Repetition.form.read <*>
    .optional "state" Reader.text

def form : Form Definition :=
  mk <$> .optional "id" Reader.text <*> .optional "name" Reader.text <*>
    .optional "type" Reader.text <*>
    .optional "properties" Properties.form.read

def read : Reader Definition := form.read

end Definition

end ScheduledJobs
