import ScheduledJobs.Definition.Basic
import ScheduledJobs.Document.Atoms

/-!
# Writing definitions

Definitions are written in the form in which they are read, and what is missing
is left out.
-/

namespace ScheduledJobs.Definition

open Document

/-- The table of an authentication, with its type in front. -/
def Authentication.toValue : Authentication → Value
  | .basic given => .ofFields [
      ("type", some (.text "Basic")),
      ("username", given.username.map .text),
      ("password", given.password.map .text)]
  | .certificate given => .ofFields [
      ("type", some (.text "ClientCertificate")),
      ("pfx", given.pfx.map .text),
      ("password", given.password.map .text),
      ("certificateThumbprint", given.thumbprint.map .text),
      ("certificateExpirationDate", given.expiration.map .ofInstant),
      ("certificateSubjectName", given.subjectName.map .text)]
  | .directory given => .ofFields [
      ("type", some (.text "ActiveDirectoryOAuth")),
      ("secret", given.secret.map .text),
      ("tenant", given.tenant.map .text),
      ("audience", given.audience.map .text),
      ("clientId", given.clientId.map .text)]
  | .unknown => .ofFields [("type", some (.text "Unknown"))]

def Request.toValue (request : Request) : Value :=
  .ofFields [
    ("authentication", request.authentication.map Authentication.toValue),
    ("uri", request.uri.map .text),
    ("method", request.method.map .text),
    ("body", request.body.map .text),
    ("headers", request.headers.map .ofTextTable)]

def RetryPolicy.toValue (policy : RetryPolicy) : Value :=
  .ofFields [
    ("retryType", policy.kind.map fun kind => .text kind.name),
    ("retryInterval", policy.interval.map .text),
    ("retryCount", policy.count.map .ofInteger)]

def ErrorAction.toValue (action : ErrorAction) : Value :=
  .ofFields [
    ("type", action.kind.map fun kind => .text kind.name),
    ("request", action.request.map Request.toValue)]

def Action.toValue (action : Action) : Value :=
  .ofFields [
    ("type", action.kind.map fun kind => .text kind.name),
    ("request", action.request.map Request.toValue),
    ("retryPolicy", action.retryPolicy.map RetryPolicy.toValue),
    ("errorAction", action.errorAction.map ErrorAction.toValue)]

def NumberedDay.toValue (numbered : NumberedDay) : Value :=
  .ofFields [
    ("day", some (.text numbered.day)),
    ("occurrence", numbered.occurrence.map .ofInteger)]

def Timetable.toValue (timetable : Timetable) : Value :=
  let numbers (given : List Int32) : Value := .list (given.map .ofInteger)
  .ofFields [
    ("weekDays", timetable.weekDays.map fun days => .list (days.map .text)),
    ("hours", timetable.hours.map numbers),
    ("minutes", timetable.minutes.map numbers),
    ("monthDays", timetable.monthDays.map numbers),
    ("monthlyOccurrences", timetable.monthlyOccurrences.map fun days =>
      .list (days.map NumberedDay.toValue))]

def Repetition.toValue (repetition : Repetition) : Value :=
  .ofFields [
    ("frequency", repetition.frequency.map .text),
    ("interval", repetition.interval.map .ofInteger),
    ("count", repetition.count.map .ofInteger),
    ("endTime", repetition.endTime.map .ofInstant),
    ("schedule", repetition.timetable.map Timetable.toValue)]

def Properties.toValue (properties : Properties) : Value :=
  .ofFields [
    ("startTime", properties.startTime.map .ofInstant),
    ("action", properties.action.map Action.toValue),
    ("recurrence", properties.repetition.map Repetition.toValue),
    ("state", properties.state.map .text)]

def toValue (definition : Definition) : Value :=
  .ofFields [
    ("id", definition.id.map .text),
    ("name", definition.name.map .text),
    ("type", definition.resourceType.map .text),
    ("properties", definition.properties.map Properties.toValue)]

end ScheduledJobs.Definition
