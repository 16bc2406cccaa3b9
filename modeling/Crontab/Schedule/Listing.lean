import Crontab.Schedule.Basic

/-!
# Schedules listed by hand

A listing gives for each field the integers at which a schedule is to run, in any order and with any
repetition.  It is a schedule if every field lists something and lists only its own values; on days
of the week 7 is Sunday as well.

* `Listing`, `Schedule.listing` — listings, and the one that a schedule amounts to;
* `Listing.explicit` — the expression that lists every integer;
* `Listing.schedule` — the schedule of a listing, or why it is none (`ListingFault`).
-/

namespace Crontab

/-- The integers listed for the five fields. -/
structure Listing where
  minute : List Int
  hour : List Int
  dayOfMonth : List Int
  month : List Int
  dayOfWeek : List Int
deriving DecidableEq, Repr

/-- Why a listing is no schedule. -/
inductive ListingFault
  /-- Nothing is listed for some field. -/
  | empty
  | negative
  | outOfRange
deriving DecidableEq, Repr

/-- The listing of the values of a schedule. -/
def Schedule.listing (schedule : Schedule) : Listing where
  minute := schedule.minute.map Int.ofNat
  hour := schedule.hour.map Int.ofNat
  dayOfMonth := schedule.dayOfMonth.map Int.ofNat
  month := schedule.month.map Int.ofNat
  dayOfWeek := schedule.dayOfWeek.map Int.ofNat

namespace Listing

/-- The integers listed for one field. -/
def valuesOf (listing : Listing) : Field → List Int
  | .minute => listing.minute
  | .hour => listing.hour
  | .dayOfMonth => listing.dayOfMonth
  | .month => listing.month
  | .dayOfWeek => listing.dayOfWeek

/-- The numerals of the integers listed for a field, separated by commas. -/
def explicitField (values : List Int) : List Char :=
  [','].intercalate (values.map Text.signedNumeral)

/-- The expression that lists every integer of every field. -/
def explicit (listing : Listing) : String :=
  String.ofList
    ([' '].intercalate (Field.all.map fun field => explicitField (listing.valuesOf field)))

/-- The value of a field that a listed integer means. -/
def valueOf (field : Field) (n : Int) : Except ListingFault Nat :=
  let meant := if field = .dayOfWeek ∧ n = 7 then 0 else n
  if meant < 0 then .error .negative
  else if field.admits meant then .ok meant.toNat
  else .error .outOfRange

/-- The values of a field that listed integers mean.  Of several faults the last one counts. -/
def fieldValues (field : Field) : List Int → Except ListingFault (List Nat)
  | [] => .ok []
  | n :: rest => do
    let values ← fieldValues field rest
    let value ← valueOf field n
    pure (value :: values)

/-- The schedule of a listing. -/
def schedule (listing : Listing) : Except ListingFault Schedule :=
  if Field.all.any fun field => (listing.valuesOf field).isEmpty then .error .empty
  else do
    let minute ← fieldValues .minute listing.minute
    let hour ← fieldValues .hour listing.hour
    let dayOfMonth ← fieldValues .dayOfMonth listing.dayOfMonth
    let month ← fieldValues .month listing.month
    let dayOfWeek ← fieldValues .dayOfWeek listing.dayOfWeek
    pure { minute, hour, dayOfMonth, month, dayOfWeek }

/-- The listing of a schedule holds the values of the schedule. -/
theorem valuesOf_listing (schedule : Schedule) (field : Field) :
    schedule.listing.valuesOf field = (schedule.valuesOf field).map Int.ofNat := by
  cases field <;> rfl

/-- The numerals of a listing of natural numbers are those of the numbers. -/
theorem explicitField_ofNat (values : List Nat) :
    explicitField (values.map Int.ofNat) = Schedule.explicitField values := by
  have h : Text.signedNumeral ∘ Int.ofNat = Text.numeral := by
    funext n
    simp [Text.signedNumeral]
  simp [explicitField, Schedule.explicitField, h]

/-- The listing of a schedule and the schedule itself have the same expression. -/
theorem explicit_listing (schedule : Schedule) : schedule.listing.explicit = schedule.explicit := by
  simp only [explicit, Schedule.explicit, Schedule.explicitChars, valuesOf_listing,
    explicitField_ofNat]

end Listing

end Crontab
