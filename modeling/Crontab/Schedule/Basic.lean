import Crontab.Schedule.Field
import Crontab.Text.Numeral

/-!
# Schedules

A schedule gives for each of the five fields the values at which it runs.  A schedule that was read
from an expression has ascending lists without repetition inside the bounds of their fields; one
put together by hand may list its values in any order.

* `Schedule.valuesOf` — the values of one field;
* `Schedule.explicit` — the expression that lists every value.
-/

namespace Crontab

/-- The values of the five fields at which a schedule runs. -/
structure Schedule where
  minute : List Nat
  hour : List Nat
  dayOfMonth : List Nat
  month : List Nat
  dayOfWeek : List Nat
deriving DecidableEq, Repr

namespace Schedule

/-- The values of one field. -/
def valuesOf (schedule : Schedule) : Field → List Nat
  | .minute => schedule.minute
  | .hour => schedule.hour
  | .dayOfMonth => schedule.dayOfMonth
  | .month => schedule.month
  | .dayOfWeek => schedule.dayOfWeek

/-- The numerals of a list of values, separated by commas. -/
def explicitField (values : List Nat) : List Char :=
  [','].intercalate (values.map Text.numeral)

/-- The expression that lists every value of every field. -/
def explicitChars (schedule : Schedule) : List Char :=
  [' '].intercalate (Field.all.map fun field => explicitField (schedule.valuesOf field))

/-- The expression that lists every value of every field. -/
def explicit (schedule : Schedule) : String :=
  String.ofList schedule.explicitChars

end Schedule

end Crontab
