import ScheduledJobs.Document.Atoms
import ScheduledJobs.Job.Basic

/-!
# Writing job declarations

Jobs are written in the form in which they are read. What is absent is left
out, and so are an empty set of headers and a job without retries.
-/

namespace ScheduledJobs

open Document

def BasicCredentials.toValue (credentials : BasicCredentials) : Value :=
  .ofFields [
    ("username", some (.text credentials.username)),
    ("password", some (.text credentials.password))]

def CertificateCredentials.toValue (credentials : CertificateCredentials) :
    Value :=
  .ofFields [
    ("pfx", some (.text credentials.pfx)),
    ("password", some (.text credentials.password)),
    ("thumbprint", credentials.thumbprint.map .text),
    ("expiration", credentials.expiration.map .ofInstant),
    ("subject_name", credentials.subjectName.map .text)]

def DirectoryCredentials.toValue (credentials : DirectoryCredentials) :
    Value :=
  .ofFields [
    ("tenant_id", some (.text credentials.tenantId)),
    ("client_id", some (.text credentials.clientId)),
    ("secret", some (.text credentials.secret)),
    ("audience", credentials.audience.map .text)]

/-- The key under which a way of authenticating stands, and its table. -/
def Credentials.toField : Credentials → String × Value
  | .basic credentials => ("authentication_basic", credentials.toValue)
  | .certificate credentials =>
      ("authentication_certificate", credentials.toValue)
  | .directory credentials =>
      ("authentication_active_directory", credentials.toValue)

def WebAction.toValue (action : WebAction) : Value :=
  .ofFields ([
    ("url", some (.text action.url)),
    ("method", some (.text action.method)),
    ("body", action.body.map .text),
    ("headers",
      if action.headers.entries.isEmpty then none
      else some (.ofTextTable action.headers))] ++
    (action.credentials.map fun credentials =>
      (credentials.toField.1, some credentials.toField.2)).toList)

def FixedRetry.toValue (retry : FixedRetry) : Value :=
  .ofFields [
    ("interval", some (.text retry.interval)),
    ("count", some (.ofInteger retry.count))]

/-- How often a request is repeated; there is nothing to write for never. -/
def Retry.toValue? : Retry → Option Value
  | .never => none
  | .fixed retry => some retry.toValue

def DayName.toValue (day : DayName) : Value := .text day.name

def MonthlyOccurrence.toValue (numbered : MonthlyOccurrence) : Value :=
  .ofFields [
    ("day", some numbered.day.toValue),
    ("occurrence", some (.ofInteger numbered.occurrence))]

def Schedule.fields (schedule : Schedule) : List (String × Option Value) := [
  ("minutes", schedule.minutes.toField .ofInteger),
  ("hours", schedule.hours.toField .ofInteger),
  ("week_days", schedule.weekDays.toField DayName.toValue),
  ("month_days", schedule.monthDays.toField .ofInteger),
  ("monthly_occurrences",
    schedule.monthlyOccurrences.toField MonthlyOccurrence.toValue)]

/-- The table of a recurrence, with the entries of its schedule at the end. -/
def Recurrence.toValue (recurrence : Recurrence) : Value :=
  .ofFields ([
    ("frequency", some (.text recurrence.frequency)),
    ("interval", some (.ofInteger recurrence.interval)),
    ("count", recurrence.count.map .ofInteger),
    ("end_time", recurrence.endTime.map .ofInstant)] ++
    recurrence.schedule.fields)

def Job.toValue (job : Job) : Value :=
  .ofFields [
    ("name", some (.text job.name)),
    ("resource_group_name", some (.text job.resourceGroup)),
    ("job_collection_name", some (.text job.collection)),
    ("action_web", job.action.map WebAction.toValue),
    ("error_action_web", job.errorAction.map WebAction.toValue),
    ("retry", job.retry.toValue?),
    ("recurrence", job.recurrence.map Recurrence.toValue),
    ("start_time", job.startTime.map .ofInstant),
    ("state", job.state.map .text)]

end ScheduledJobs
