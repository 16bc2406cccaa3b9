/-!
# The calendar

Dates of the proleptic Gregorian calendar in the years 1 to 9999, counted in days from 1 January of
year 1, which is day 0 and a Monday.

* `daysBeforeYear`, `daysBeforeMonth`, `Date.dayNumber` — from dates to day numbers;
* `yearOfDay`, `Date.ofDayNumber` — from day numbers to dates;
* `weekday` — the day of the week, Sunday being 0;
* `isoWeekStart`, `isoWeekCount` — the weeks of a year that belong to the year of their Thursday.
-/

namespace Crontab.Time

-- The zero of a sum is that of the core library, wherever this is read.
attribute [local instance (high)] Zero.ofOfNat0

/-- Whether a year has a 29 February. -/
def isLeap (year : Nat) : Bool :=
  year % 4 == 0 && (year % 100 != 0 || year % 400 == 0)

/-- The lengths of the twelve months of a year. -/
def monthLengths (year : Nat) : List Nat :=
  [31, if isLeap year then 29 else 28, 31, 30, 31, 30, 31, 31, 30, 31, 30, 31]

/-- The length of a month; zero for numbers outside 1 to 12. -/
def monthLength (year month : Nat) : Nat :=
  if month = 0 then 0 else (monthLengths year).getD (month - 1) 0

/-- The number of days of the years before the given one. -/
def daysBeforeYear (year : Nat) : Nat :=
  let past := year - 1
  365 * past + past / 4 - past / 100 + past / 400

/-- The number of days of the months of a year before the given one. -/
def daysBeforeMonth (year month : Nat) : Nat :=
  ((monthLengths year).take (month - 1)).sum

/-- The last year of the calendar. -/
def lastYear : Nat := 9999

/-- The number of days of the calendar. -/
def dayCount : Nat := 3652059

/-- The year of a day.  The mean length of a year gives it up to two. -/
def yearOfDay (day : Nat) : Nat :=
  let guess := day * 400 / 146097
  if daysBeforeYear (guess + 2) ≤ day then guess + 2
  else if daysBeforeYear (guess + 1) ≤ day then guess + 1
  else guess

/-- The month, counted from `month`, and the day in it, counted from 0, that a number of days
reaches when it is used up by months of the given lengths. -/
def spendDays : (lengths : List Nat) → (month days : Nat) → Nat × Nat
  | [], month, days => (month, days)
  | length :: lengths, month, days =>
    if days < length then (month, days) else spendDays lengths (month + 1) (days - length)

/-- A date by year, month and day of the month. -/
structure Date where
  year : Nat
  month : Nat
  day : Nat
deriving DecidableEq, Repr

namespace Date

/-- Whether a date is in the calendar. -/
def isValid (date : Date) : Bool :=
  decide (1 ≤ date.year) && decide (date.year ≤ lastYear) && decide (1 ≤ date.month) &&
    decide (date.month ≤ 12) && decide (1 ≤ date.day) &&
    decide (date.day ≤ monthLength date.year date.month)

/-- The number of days from day 0 to a date. -/
def dayNumber (date : Date) : Nat :=
  daysBeforeYear date.year + daysBeforeMonth date.year date.month + (date.day - 1)

/-- The date of a day. -/
def ofDayNumber (day : Nat) : Date :=
  let year := yearOfDay day
  let (month, rest) := spendDays (monthLengths year) 1 (day - daysBeforeYear year)
  ⟨year, month, rest + 1⟩

end Date

/-- The day of the week of a day, Sunday being 0. -/
def weekday (day : Nat) : Nat :=
  (day + 1) % 7

/-- The day of the week of a day, Monday being 1 and Sunday 7. -/
def isoWeekday (day : Nat) : Nat :=
  day % 7 + 1

/-- The Monday of the week that holds the first Thursday of a year. -/
def isoWeekStart (year : Nat) : Nat :=
  let first := daysBeforeYear year
  let past := first % 7
  if 3 < past then first - past + 7 else first - past

/-- The number of weeks of a year: 53 if it starts on a Thursday, or is a leap year that starts on a
Wednesday, and 52 otherwise. -/
def isoWeekCount (year : Nat) : Nat :=
  let first := daysBeforeYear year % 7
  if first = 3 ∨ (first = 2 ∧ isLeap year) then 53 else 52

/-- The year and the week to which a day belongs when weeks are counted. -/
def isoYearWeek (day : Nat) : Nat × Nat :=
  let year := yearOfDay day
  if day < isoWeekStart year then (year - 1, isoWeekCount (year - 1))
  else if isoWeekStart (year + 1) ≤ day then (year + 1, 1)
  else (year, (day - isoWeekStart year) / 7 + 1)

end Crontab.Time
