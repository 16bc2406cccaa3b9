import Crontab.Time.Moment

/-!
# Patterns for moments

A pattern is a text in which a percent sign and a letter stand for a part of a moment.  Months and
days have their English names.  A percent sign with an unknown letter stands for itself and the
letter, and a NUL character ends the pattern.

* `Moment.directive?` — what a letter stands for;
* `Moment.format` — a moment in the form of a pattern.
-/

namespace Crontab.Time

open Text

/-- The names of the days of the week, from Sunday. -/
def weekdayNames : List String :=
  ["Sunday", "Monday", "Tuesday", "Wednesday", "Thursday", "Friday", "Saturday"]

/-- The names of the months. -/
def monthFullNames : List String :=
  ["January", "February", "March", "April", "May", "June", "July", "August", "September",
   "October", "November", "December"]

/-- The number with blanks in front, up to two characters. -/
def blankPadded (n : Nat) : List Char :=
  fillStart ' ' 2 (numeral n)

namespace Wall

/-- The name of the day of the week. -/
def weekdayName (wall : Wall) : List Char :=
  (weekdayNames.getD (weekday wall.dayNumber) "").toList

/-- The name of the month. -/
def monthName (wall : Wall) : List Char :=
  (monthFullNames.getD (wall.date.month - 1) "").toList

/-- The number of days of the year before the reading. -/
def dayOfYear (wall : Wall) : Nat :=
  wall.dayNumber - daysBeforeYear wall.date.year

/-- The number of weeks of the year that have begun, weeks beginning on the given weekday. -/
def weeksBegun (wall : Wall) (firstWeekday : Nat) : Nat :=
  (wall.dayOfYear + 7 - (weekday wall.dayNumber + 7 - firstWeekday) % 7) / 7

/-- The hour on a clock face with twelve hours. -/
def hourOfTwelve (wall : Wall) : Nat :=
  if wall.hour % 12 = 0 then 12 else wall.hour % 12

/-- Hours and minutes with a colon. -/
def clockChars (wall : Wall) : List Char :=
  padded 2 wall.hour ++ ':' :: padded 2 wall.minute

/-- Hours, minutes and seconds with colons. -/
def fullClockChars (wall : Wall) : List Char :=
  wall.clockChars ++ ':' :: padded 2 wall.second

/-- Month, day and the last two digits of the year, with slashes. -/
def slashDateChars (wall : Wall) : List Char :=
  padded 2 wall.date.month ++ '/' :: padded 2 wall.date.day ++ '/' :: padded 2 (wall.date.year % 100)

/-- What the letter of a pattern stands for, if it concerns the reading alone. -/
def directive? (wall : Wall) (letter : Char) : Option (List Char) :=
  let date := wall.date
  match letter with
  | 'a' => some (wall.weekdayName.take 3)
  | 'A' => some wall.weekdayName
  | 'b' | 'h' => some (wall.monthName.take 3)
  | 'B' => some wall.monthName
  | 'c' =>
    some (wall.weekdayName.take 3 ++ ' ' :: wall.monthName.take 3 ++ ' ' :: blankPadded date.day ++
      ' ' :: wall.fullClockChars ++ ' ' :: numeral date.year)
  | 'C' => some (numeral (date.year / 100))
  | 'd' => some (padded 2 date.day)
  | 'D' | 'x' => some wall.slashDateChars
  | 'e' => some (blankPadded date.day)
  | 'f' => some (padded 6 wall.microsecond)
  | 'F' => some (numeral date.year ++ '-' :: padded 2 date.month ++ '-' :: padded 2 date.day)
  | 'g' => some (padded 2 ((isoYearWeek wall.dayNumber).1 % 100))
  | 'G' => some (numeral (isoYearWeek wall.dayNumber).1)
  | 'H' => some (padded 2 wall.hour)
  | 'I' => some (padded 2 wall.hourOfTwelve)
  | 'j' => some (padded 3 (wall.dayOfYear + 1))
  | 'm' => some (padded 2 date.month)
  | 'M' => some (padded 2 wall.minute)
  | 'n' => some ['\n']
  | 'p' => some (if wall.hour < 12 then ['A', 'M'] else ['P', 'M'])
  | 'R' => some wall.clockChars
  | 'S' => some (padded 2 wall.second)
  | 't' => some ['\t']
  | 'T' | 'X' => some wall.fullClockChars
  | 'u' => some (numeral (isoWeekday wall.dayNumber))
  | 'U' => some (padded 2 (wall.weeksBegun 0))
  | 'V' => some (padded 2 (isoYearWeek wall.dayNumber).2)
  | 'w' => some (numeral (weekday wall.dayNumber))
  | 'W' => some (padded 2 (wall.weeksBegun 1))
  | 'y' => some (padded 2 (date.year % 100))
  | 'Y' => some (numeral date.year)
  | '%' => some ['%']
  | _ => none

end Wall

namespace Moment

/-- What the letter of a pattern stands for. -/
def directive? (moment : Moment) (letter : Char) : Option (List Char) :=
  match letter with
  | 'z' =>
    match moment.offset? with
    | none => some []
    | some offset => some (offsetChars [] offset)
  | 'Z' => some moment.clockName.toList
  | _ => moment.wall.directive? letter

/-- The characters of a moment in the form of a pattern. -/
def formatChars (moment : Moment) : List Char → List Char
  | [] => []
  | '%' :: letter :: rest =>
    if letter.toNat = 0 then ['%']
    else
      (match moment.directive? letter with
        | some part => part
        | none => ['%', letter]) ++ formatChars moment rest
  | c :: rest => if c.toNat = 0 then [] else c :: formatChars moment rest

/-- A moment in the form of a pattern. -/
def format (moment : Moment) (pattern : String) : String :=
  String.ofList (moment.formatChars pattern.toList)

end Moment

end Crontab.Time
