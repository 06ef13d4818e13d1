import ScheduledJobs.Fingerprint
import ScheduledJobs.Presence
import ScheduledJobs.Text.Decimal
import ScheduledJobs.Text.LowerCase
import ScheduledJobs.Text.Quoted
import ScheduledJobs.Text.Utf8

/-!
# Schedules

The minutes, hours and days on which a recurring job runs. Numbers are told
apart by their value, day names without regard to case, and the numbered days
of a month by name and number.
-/

namespace ScheduledJobs

open Text

instance : Identified Int32 where
  identity number := number.toInt64.toUInt64

/-- The name of a day of the week, as given. -/
structure DayName where
  name : String
  deriving DecidableEq

namespace DayName

instance : Identified DayName where
  identity day :=
    Fingerprint.ofOctets (Utf8.encode (LowerCase.lower day.name))

def describe (day : DayName) : String :=
  "DayName(" ++ Quoted.quote day.name ++ ")"

end DayName

/-- The day of a month that is the nth with the given name; a negative number
counts from the end of the month. -/
structure MonthlyOccurrence where
  day : DayName
  occurrence : Int32
  deriving DecidableEq

namespace MonthlyOccurrence

def identityText (numbered : MonthlyOccurrence) : List Char :=
  (LowerCase.lower numbered.day.name).toList ++
    '-' :: Decimal.integer numbered.occurrence.toInt ++ ['-']

instance : Identified MonthlyOccurrence where
  identity numbered :=
    Fingerprint.ofOctets (Utf8.encode (String.ofList numbered.identityText))

/-- The numbered day in a description of a set. -/
def describe (numbered : MonthlyOccurrence) : String :=
  "MonthlyOccurrence \x7b day: " ++ numbered.day.describe ++
    ", occurrence: " ++
    String.ofList (Decimal.integer numbered.occurrence.toInt) ++ " \x7d"

end MonthlyOccurrence

/-- The times at which a recurring job runs. -/
structure Schedule where
  minutes : Presence (IdentitySet Int32) := .unset
  hours : Presence (IdentitySet Int32) := .unset
  weekDays : Presence (IdentitySet DayName) := .unset
  monthDays : Presence (IdentitySet Int32) := .unset
  monthlyOccurrences : Presence (IdentitySet MonthlyOccurrence) := .unset
  deriving BEq, Inhabited

def Schedule.isEmpty (schedule : Schedule) : Bool :=
  schedule.minutes.members?.isNone && schedule.hours.members?.isNone &&
    schedule.weekDays.members?.isNone && schedule.monthDays.members?.isNone &&
    schedule.monthlyOccurrences.members?.isNone

end ScheduledJobs
