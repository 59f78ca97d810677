/-
This file defines moments of the world's calendar and the time between two of them. A moment is a
date of the Gregorian calendar, the second of its day in universal time, and a fraction. A leap
second is kept as the second before it with a fraction of one second or more, so each moment
stays inside its day.
-/

namespace OperatorDesk

/-- A day of the Gregorian calendar, extended over all years. -/
structure Date where
  year : Int
  month : Nat
  day : Nat
  deriving DecidableEq, Repr

namespace Date

/-- The year has a 29th of February. -/
def isLeapYear (year : Int) : Bool :=
  year % 4 == 0 && (year % 100 != 0 || year % 400 == 0)

/-- The number of days in a month. -/
def daysInMonth (year : Int) (month : Nat) : Nat :=
  if month = 2 then if isLeapYear year then 29 else 28
  else if month = 4 ∨ month = 6 ∨ month = 9 ∨ month = 11 then 30
  else 31

/-- The first and the last year that a date can have. -/
def firstYear : Int := -262143

/-- The last year that a date can have. -/
def lastYear : Int := 262142

/-- The date with these numbers, if there is such a day. -/
def ofNumbers? (year : Int) (month day : Nat) : Option Date :=
  if firstYear ≤ year ∧ year ≤ lastYear ∧ 1 ≤ month ∧ month ≤ 12 ∧ 1 ≤ day ∧
      day ≤ daysInMonth year month then some { year, month, day }
  else none

/-- The day after. -/
def next? (date : Date) : Option Date :=
  if date.day < daysInMonth date.year date.month then some { date with day := date.day + 1 }
  else if date.month < 12 then some { date with month := date.month + 1, day := 1 }
  else ofNumbers? (date.year + 1) 1 1

/-- The day before. -/
def previous? (date : Date) : Option Date :=
  if 1 < date.day then some { date with day := date.day - 1 }
  else if 1 < date.month then
    some { date with month := date.month - 1, day := daysInMonth date.year (date.month - 1) }
  else ofNumbers? (date.year - 1) 12 31

/-- The number of days before the year, counted from the start of year 1. -/
def daysBeforeYear (year : Int) : Int :=
  365 * (year - 1) + Int.fdiv (year - 1) 4 - Int.fdiv (year - 1) 100 + Int.fdiv (year - 1) 400

/-- The number of days in the months of the year before this one. -/
def daysBeforeMonth (year : Int) : Nat → Nat
  | 0 => 0
  | 1 => 0
  | month + 2 => daysBeforeMonth year (month + 1) + daysInMonth year (month + 1)

/-- The number of the day, counted from the start of year 1. -/
def number (date : Date) : Int :=
  daysBeforeYear date.year + daysBeforeMonth date.year date.month + date.day

end Date

/-- A point in time. -/
structure Moment where
  date : Date
  secondOfDay : Nat
  /-- One thousand million and more in a leap second. -/
  nanos : Nat
  deriving DecidableEq, Repr

namespace Moment

/-- The number of nanoseconds in a second. -/
def nanosPerSecond : Nat := 1000000000

/-- The start of the year 1970. -/
def epoch : Moment :=
  { date := { year := 1970, month := 1, day := 1 }, secondOfDay := 0, nanos := 0 }

/-- The hour of the day. -/
def hour (moment : Moment) : Nat := moment.secondOfDay / 3600

/-- The minute of the hour. -/
def minute (moment : Moment) : Nat := moment.secondOfDay / 60 % 60

/-- The second of the minute as it is shown: a leap second is the sixtieth. -/
def second (moment : Moment) : Nat :=
  moment.secondOfDay % 60 + moment.nanos / nanosPerSecond

/-- The leap second that lies between two times of day, counted along the way from the earlier
to the later one. -/
def leapBetween (later earlier : Moment) : Int :=
  if earlier.secondOfDay < later.secondOfDay ∧ nanosPerSecond ≤ earlier.nanos then 1
  else if later.secondOfDay < earlier.secondOfDay ∧ nanosPerSecond ≤ later.nanos then -1
  else 0

/-- The nanoseconds from one moment to a later one; negative if it is not later. -/
def nanosSince (later earlier : Moment) : Int :=
  ((later.date.number - earlier.date.number) * 86400 +
      ((later.secondOfDay : Int) - earlier.secondOfDay) + leapBetween later earlier) *
    nanosPerSecond + ((later.nanos : Int) - earlier.nanos)

/-- The whole seconds from one moment to another, rounded towards none. -/
def secondsSince (later earlier : Moment) : Int :=
  Int.tdiv (later.nanosSince earlier) nanosPerSecond

/-- The whole milliseconds from one moment to another, rounded towards none. -/
def millisSince (later earlier : Moment) : Int :=
  Int.tdiv (later.nanosSince earlier) 1000000

end Moment

end OperatorDesk
