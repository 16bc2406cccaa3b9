import Crontab.Number.Binary64
import Crontab.Time.Calendar

/-!
# Clock readings

What a clock on the wall shows, date included, in the years 1 to 9999.  A reading is kept as the
number of microseconds from the beginning of year 1, so that moving the hands is an addition.

* `Wall` — a reading, in range by construction;
* `Wall.ofCount?`, `Wall.ofMinute?`, `Wall.shift?` — readings by count, and readings moved by a
  span of time;
* `Wall.onDate` — the reading of a date and a time of day;
* `Wall.date`, `Wall.hour`, … — the fields of a reading;
* `Wall.keptSecond` — a reading with its seconds kept as a floating point number.
-/

namespace Crontab.Time

/-- Microseconds in a second. -/
def second : Nat := 1000000

/-- Microseconds in a minute. -/
def minute : Nat := 60000000

/-- Microseconds in an hour. -/
def hour : Nat := 3600000000

/-- Microseconds in a day. -/
def day : Nat := 86400000000

/-- The seconds from the beginning of year 1 to the beginning of 1970. -/
def epoch : Int := 62135596800

/-- The reading of a clock in the years 1 to 9999. -/
structure Wall where
  /-- The microseconds from the beginning of year 1. -/
  count : Nat
  /-- The reading lies before the end of year 9999. -/
  count_lt : count < dayCount * day
deriving DecidableEq, Repr

namespace Wall

/-- The reading of a given count, if it is in range. -/
def ofCount? (count : Int) : Option Wall :=
  if h : count.toNat < dayCount * day then
    if 0 ≤ count then some ⟨count.toNat, h⟩ else none
  else none

/-- The reading moved by a number of microseconds, if it stays in range. -/
def shift? (wall : Wall) (span : Int) : Option Wall :=
  ofCount? (wall.count + span)

/-- The reading at the beginning of a minute, counted from the beginning of year 1. -/
def ofMinute? (minute : Nat) : Option Wall :=
  ofCount? (Time.minute * minute : Nat)

/-- The beginning of year 1. -/
def first : Wall := ⟨0, by decide⟩

/-- The number of the day. -/
def dayNumber (wall : Wall) : Nat := wall.count / day

/-- The date. -/
def date (wall : Wall) : Date := Date.ofDayNumber wall.dayNumber

/-- The hour of the day. -/
def hour (wall : Wall) : Nat := wall.count / Time.hour % 24

/-- The minute of the hour. -/
def minute (wall : Wall) : Nat := wall.count / Time.minute % 60

/-- The second of the minute. -/
def second (wall : Wall) : Nat := wall.count / Time.second % 60

/-- The microsecond of the second. -/
def microsecond (wall : Wall) : Nat := wall.count % Time.second

/-- The number of whole minutes from the beginning of year 1. -/
def minuteCount (wall : Wall) : Nat := wall.count / Time.minute

/-- The whole seconds from the beginning of year 1 that are left of a reading when its seconds since
1970 are kept as a binary floating point number. -/
def keptSecond (wall : Wall) : Nat :=
  let micros : Int := wall.count - epoch * Time.second
  let kept := Number.Binary64.ofRatio (decide (micros < 0)) micros.natAbs Time.second
  (epoch + kept.floor?.getD 0).toNat

/-- The microseconds of a time of day. -/
def timeOfDay (hours minutes seconds microseconds : Nat) : Nat :=
  hours * Time.hour + minutes * Time.minute + seconds * Time.second + microseconds

/-- The reading of a date and a time of day in microseconds. -/
def onDate (date : Date) (timeOfDay : Nat)
    (h : date.dayNumber * day + timeOfDay < dayCount * day) : Wall :=
  ⟨date.dayNumber * day + timeOfDay, h⟩

end Wall

end Crontab.Time
