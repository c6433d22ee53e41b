/-!
# The calendar

Dates of the Gregorian calendar, carried on to all years before and after, and instants counted in
seconds from the beginning of 1970. A leap second is the second before it with a billion
nanoseconds added, so that instants stay in order.
-/

namespace CubeClient

/-- An instant, in seconds from the beginning of 1970 and the nanoseconds after that. -/
structure Instant where
  seconds : Int
  nanos : Nat
  deriving DecidableEq, Repr

namespace Instant

/-- Whether an instant is before another. -/
def isBefore (a b : Instant) : Bool :=
  a.seconds < b.seconds || (a.seconds == b.seconds && a.nanos < b.nanos)

end Instant

/-- A day of the calendar. -/
structure CivilDate where
  year : Int
  month : Nat
  day : Nat
  deriving DecidableEq, Repr

namespace CivilDate

/-- Whether a year has a leap day. -/
def isLeapYear (year : Int) : Bool :=
  year % 4 = 0 && (year % 100 ≠ 0 || year % 400 = 0)

/-- How many days a month has. -/
def daysInMonth (year : Int) (month : Nat) : Nat :=
  match month with
  | 4 | 6 | 9 | 11 => 30
  | 2 => if isLeapYear year then 29 else 28
  | _ => 31

/-- How many days of a year are before a month. -/
def daysBeforeMonth (year : Int) (month : Nat) : Nat :=
  (List.range (month - 1)).foldl (fun days m => days + daysInMonth year (m + 1)) 0

/-- How many days are before a year, counted from the first day of the year 1. -/
def daysBeforeYear (year : Int) : Int :=
  let past := year - 1
  365 * past + past / 4 - past / 100 + past / 400

/-- The years that dates may have. -/
def yearLimits : Int × Int := (-262143, 262142)

/-- Whether there is such a day. -/
def isValid (date : CivilDate) : Bool :=
  yearLimits.1 ≤ date.year && date.year ≤ yearLimits.2 && 1 ≤ date.month && date.month ≤ 12 &&
    1 ≤ date.day && date.day ≤ daysInMonth date.year date.month

/-- The number of a day, counted from the beginning of 1970. -/
def dayNumber (date : CivilDate) : Int :=
  daysBeforeYear date.year + daysBeforeMonth date.year date.month + date.day - 719163

/-- The day of the week, counted from Monday as 0. The first day of 1970 was a Thursday. -/
def weekday (date : CivilDate) : Nat :=
  ((date.dayNumber + 3) % 7).toNat

end CivilDate

/-- A time of day; the second 60 is a leap second. -/
structure ClockTime where
  hour : Nat
  minute : Nat
  second : Nat
  deriving DecidableEq, Repr

namespace ClockTime

/-- Whether there is such a time. -/
def isValid (time : ClockTime) : Bool :=
  time.hour < 24 && time.minute < 60 && time.second ≤ 60

end ClockTime

namespace Instant

/-- The instant of a date and time at a place whose clocks are some seconds ahead. -/
def ofCivil (date : CivilDate) (time : ClockTime) (ahead : Int) : Instant :=
  { seconds :=
      date.dayNumber * 86400 + time.hour * 3600 + time.minute * 60 + min time.second 59 - ahead
    nanos := if time.second = 60 then 1000000000 else 0 }

/-- Whether an instant is in a year that dates may have. -/
def isRepresentable (instant : Instant) : Bool :=
  (CivilDate.dayNumber ⟨CivilDate.yearLimits.1, 1, 1⟩) * 86400 ≤ instant.seconds &&
    instant.seconds < (CivilDate.dayNumber ⟨CivilDate.yearLimits.2, 12, 31⟩ + 1) * 86400

end Instant

end CubeClient
