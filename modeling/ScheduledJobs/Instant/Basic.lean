/-!
# Instants of the calendar

An instant is a date of the Gregorian calendar with a time of day in Universal
Time, to the nanosecond. Second 60 is a leap second, and any minute may have
one. The calendar covers a fixed span of years.
-/

namespace ScheduledJobs

def isLeapYear (year : Int) : Bool :=
  year % 4 == 0 && (year % 100 != 0 || year % 400 == 0)

def daysInMonth (year : Int) (month : Nat) : Nat :=
  match month with
  | 2 => if isLeapYear year then 29 else 28
  | 4 | 6 | 9 | 11 => 30
  | _ => 31

/-- A day of the calendar. -/
structure Date where
  year : Int
  month : Nat
  day : Nat
  inSpan : -262143 ≤ year ∧ year ≤ 262142
  inYear : 1 ≤ month ∧ month ≤ 12
  inMonth : 1 ≤ day ∧ day ≤ daysInMonth year month
  deriving DecidableEq

namespace Date

/-- The day with the given numbers, if the calendar has it. -/
def of? (year : Int) (month day : Nat) : Option Date :=
  if inSpan : -262143 ≤ year ∧ year ≤ 262142 then
    if inYear : 1 ≤ month ∧ month ≤ 12 then
      if inMonth : 1 ≤ day ∧ day ≤ daysInMonth year month then
        some ⟨year, month, day, inSpan, inYear, inMonth⟩
      else none
    else none
  else none

@[simp] theorem of?_self (date : Date) :
    of? date.year date.month date.day = some date := by
  simp [of?, date.inSpan, date.inYear, date.inMonth]

/-- The day after, unless the calendar ends. -/
def next? (date : Date) : Option Date :=
  if date.day < daysInMonth date.year date.month then
    of? date.year date.month (date.day + 1)
  else if date.month < 12 then
    of? date.year (date.month + 1) 1
  else
    of? (date.year + 1) 1 1

/-- The day before, unless the calendar begins. -/
def previous? (date : Date) : Option Date :=
  if 1 < date.day then
    of? date.year date.month (date.day - 1)
  else if 1 < date.month then
    of? date.year (date.month - 1) (daysInMonth date.year (date.month - 1))
  else
    of? (date.year - 1) 12 31

/-- The day a number of days later, unless the calendar ends before. -/
def later? (date : Date) : (days : Nat) → Option Date
  | 0 => some date
  | days + 1 => date.next?.bind fun next => later? next days

end Date

def nanosecondsPerSecond : Nat := 1000000000

/-- A point in time. -/
structure Instant where
  date : Date
  hour : Nat
  minute : Nat
  second : Nat
  nanosecond : Nat
  inDay : hour < 24 ∧ minute < 60 ∧ second ≤ 60 ∧
    nanosecond < nanosecondsPerSecond := by decide
  deriving DecidableEq

namespace Instant

/-- The start of the year 1970. -/
def epoch : Instant where
  date := ⟨1970, 1, 1, by decide, by decide, by decide⟩
  hour := 0
  minute := 0
  second := 0
  nanosecond := 0

instance : Inhabited Instant := ⟨epoch⟩

/-- The instant with the given numbers, if the day has it. -/
def of? (date : Date) (hour minute second nanosecond : Nat) :
    Option Instant :=
  if inDay : hour < 24 ∧ minute < 60 ∧ second ≤ 60 ∧
      nanosecond < nanosecondsPerSecond then
    some { date, hour, minute, second, nanosecond, inDay }
  else none

@[simp] theorem of?_self (instant : Instant) :
    of? instant.date instant.hour instant.minute instant.second
      instant.nanosecond = some instant :=
  dif_pos instant.inDay

/-- The instant a number of nanoseconds after the start of the year 1970, by a
clock that does not count leap seconds. -/
def afterEpoch? (nanoseconds : Nat) : Option Instant :=
  let seconds := nanoseconds / nanosecondsPerSecond
  (epoch.date.later? (seconds / 86400)).bind fun date =>
    of? date (seconds / 3600 % 24) (seconds / 60 % 60) (seconds % 60)
      (nanoseconds % nanosecondsPerSecond)

/-- The instant at which a clock that is `offset` minutes ahead of Universal
Time shows the given one; offsets are shorter than a day. -/
def withoutOffset? (shown : Instant) (offset : Int) : Option Instant :=
  let minutes : Int := shown.hour * 60 + shown.minute - offset
  let date? :=
    if minutes < 0 then shown.date.previous?
    else if minutes < 1440 then some shown.date
    else shown.date.next?
  date?.bind fun date =>
    let ofDay := (minutes % 1440).toNat
    of? date (ofDay / 60) (ofDay % 60) shown.second shown.nanosecond

/-- The instant a positive number of days later; the last second of a minute
follows a leap second. -/
def laterByDays? (instant : Instant) (days : Nat) : Option Instant :=
  (instant.date.later? days).bind fun date =>
    of? date instant.hour instant.minute (min instant.second 59)
      instant.nanosecond

@[simp] theorem withoutOffset?_zero (instant : Instant) :
    instant.withoutOffset? 0 = some instant := by
  have bounds := instant.inDay
  have notBefore :
      ¬((instant.hour : Int) * 60 + instant.minute - 0 < 0) := by omega
  have notAfter :
      (instant.hour : Int) * 60 + instant.minute - 0 < 1440 := by omega
  have hours :
      (((instant.hour : Int) * 60 + instant.minute - 0) % 1440).toNat / 60 =
        instant.hour := by omega
  have minutes :
      (((instant.hour : Int) * 60 + instant.minute - 0) % 1440).toNat % 60 =
        instant.minute := by omega
  simp only [withoutOffset?, notBefore, notAfter, if_true, if_false,
    Option.bind_some, hours, minutes, of?_self]

end Instant

end ScheduledJobs
