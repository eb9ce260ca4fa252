/-
The proleptic Gregorian calendar. `dayNumber` counts the days of a civil date from 1 January 1970;
`Date.ofDayNumber` is its inverse.
-/
namespace CloudSweep

/-- Every fourth year, except the centuries that 400 does not divide. -/
def isLeapYear (year : Int) : Bool :=
  year % 4 == 0 && (year % 100 != 0 || year % 400 == 0)

/-- The number of days of a month, 1 for January. -/
def daysInMonth (year : Int) : (month : Nat) → Nat
  | 2 => if isLeapYear year then 29 else 28
  | 4 | 6 | 9 | 11 => 30
  | _ => 31

/-- The days of the year before the month starts. -/
def daysBeforeMonth (year : Int) : (month : Nat) → Nat
  | 0 | 1 => 0
  | month + 2 => daysBeforeMonth year (month + 1) + daysInMonth year (month + 1)

/-- The days from 1 January of year 0 to 1 January of the year: 365 for each year, and one more for
each leap year passed. -/
def daysBeforeYear (year : Int) : Int :=
  365 * year + (year + 3) / 4 - (year + 99) / 100 + (year + 399) / 400

/-- The days from 1 January of year 0 to 1 January 1970. -/
def epochDay : Int := 719528

/-- A day of the calendar; months and days count from 1. -/
structure Date where
  year : Int
  month : Nat
  day : Nat
  deriving DecidableEq

namespace Date

/-- Whether the calendar has this day. -/
def isValid (d : Date) : Bool :=
  1 ≤ d.month && d.month ≤ 12 && 1 ≤ d.day && d.day ≤ daysInMonth d.year d.month

/-- The days from 1 January 1970 to the date, negative before it. -/
def dayNumber (d : Date) : Int :=
  daysBeforeYear d.year + daysBeforeMonth d.year d.month + (d.day - 1 : Nat) - epochDay

/-- The year that holds the day which is `days` days after 1 January of year 0: the year by mean
length, put right by one where the mean is off. -/
def yearOfDay (days : Int) : Int :=
  let guess := days * 400 / 146097
  if days < daysBeforeYear guess then guess - 1
  else if daysBeforeYear (guess + 1) ≤ days then guess + 1
  else guess

/-- Month and day of the day with the given number within its year, 0 for 1 January. -/
def monthDay (year : Int) (dayOfYear : Nat) : Nat × Nat :=
  let month := (List.range 12).countP (fun m => daysBeforeMonth year (m + 1) ≤ dayOfYear)
  (month, dayOfYear - daysBeforeMonth year month + 1)

/-- The date a number of days after 1 January 1970. -/
def ofDayNumber (number : Int) : Date :=
  let days := number + epochDay
  let year := yearOfDay days
  let (month, day) := monthDay year (days - daysBeforeYear year).toNat
  { year, month, day }

end Date
end CloudSweep
