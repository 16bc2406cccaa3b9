import Crontab.Data.Fields
import Crontab.Number.Binary64

/-!
# Data interchange values

The values a JSON text can hold: `null`, booleans, integers of any size, floating point numbers,
texts, lists, and objects with their fields in order.
-/

namespace Crontab

/-- A value of a JSON text. -/
inductive Json
  | null
  | bool (value : Bool)
  | int (value : Int)
  | float (value : Number.Binary64)
  | text (value : String)
  | list (items : List Json)
  | object (fields : List (String × Json))

namespace Json

instance : Inhabited Json := ⟨.null⟩

/-- The number a value stands for in a comparison, if it is an integer or a truth value. -/
def integral? : Json → Option Int
  | .int n => some n
  | .bool b => some (if b then 1 else 0)
  | _ => none

mutual

/-- Equality by meaning: numbers are compared by value, whatever their kind, a truth value counting
as 0 or 1; lists item by item; objects without regard to the order of their fields. -/
def equals : Json → Json → Bool
  | .null, .null => true
  | .text a, .text b => a == b
  | .float a, .float b => a.equals b
  | .float a, b => match b.integral? with
    | some n => a.toInt? == some n
    | none => false
  | .list a, .list b => listEquals a b
  | .object a, .object b => a.length == b.length && fieldsWithin a b
  | a, .float b => match a.integral? with
    | some n => b.toInt? == some n
    | none => false
  | a, b => match a.integral?, b.integral? with
    | some m, some n => m == n
    | _, _ => false

/-- Equality of lists, item by item. -/
def listEquals : List Json → List Json → Bool
  | [], [] => true
  | a :: as, b :: bs => equals a b && listEquals as bs
  | _, _ => false

/-- Whether every field of the first record is a field of the second, with an equal value. -/
def fieldsWithin : List (String × Json) → List (String × Json) → Bool
  | [], _ => true
  | (name, a) :: rest, others =>
    (match Fields.get? others name with
      | some b => equals a b
      | none => false) && fieldsWithin rest others

end

end Json

end Crontab
