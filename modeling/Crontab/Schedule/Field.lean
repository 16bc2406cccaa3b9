/-!
# The fields of a schedule

A schedule restricts five parts of a clock reading.  Each field has a name, and its values form an
interval of natural numbers; days of the week count from Sunday, which is 0.
-/

namespace Crontab

/-- The part of a clock reading that a field of a schedule restricts. -/
inductive Field
  | minute
  | hour
  | dayOfMonth
  | month
  | dayOfWeek
deriving DecidableEq, Repr

namespace Field

/-- The five fields in the order in which an expression lists them. -/
def all : List Field :=
  [.minute, .hour, .dayOfMonth, .month, .dayOfWeek]

/-- The name of a field. -/
def name : Field → String
  | .minute => "minute"
  | .hour => "hour"
  | .dayOfMonth => "day_of_month"
  | .month => "month"
  | .dayOfWeek => "day_of_week"

/-- The field of a given name. -/
def ofName? (name : String) : Option Field :=
  all.find? (·.name = name)

/-- The least value of a field. -/
def least : Field → Nat
  | .minute | .hour | .dayOfWeek => 0
  | .dayOfMonth | .month => 1

/-- The greatest value of a field. -/
def greatest : Field → Nat
  | .minute => 59
  | .hour => 23
  | .dayOfMonth => 31
  | .month => 12
  | .dayOfWeek => 6

/-- Whether an integer is a value of a field. -/
def admits (field : Field) (n : Int) : Bool :=
  decide (field.least ≤ n) && decide (n ≤ field.greatest)

/-- The values of a field, in ascending order. -/
def values (field : Field) : List Nat :=
  List.range' field.least (field.greatest + 1 - field.least)

/-- A number is among the values of a field exactly if it lies between its two bounds. -/
theorem mem_values {field : Field} {n : Nat} :
    n ∈ field.values ↔ field.least ≤ n ∧ n ≤ field.greatest := by
  cases field <;> simp [values, least, greatest, List.mem_range'_1] <;> omega

end Field

end Crontab
