import Crontab.Schedule.Description
import Crontab.Schedule.NextRun
import Crontab.Time.Conversion

/-!
# Schedules and runs from given values

The entry points that take whatever a caller passes as an expression, a zone or a reference.

* `Schedule.ofValue` — the schedule of a given expression;
* `describeValue` — the description of a given expression, or the expression itself;
* `upcomingRun`, `upcomingRuns` — the next run and the next few runs in a zone of a given name;
* `requestedRun`, `requestedRuns` — the same after a given reference, in a given number.
-/

namespace Crontab

open Time

/-- The schedule that a given expression stands for. -/
def Schedule.ofValue (expression : Value) : Except ParseError Schedule :=
  match expression.text? with
  | some text => Schedule.parse text
  | none => .error .notText

/-- The report on an expression that is no schedule. -/
def invalidExpressionReport (expression : Value) (error : ParseError) : String :=
  "Invalid cron expression '" ++ expression.plain ++ "': " ++ error.message

/-- The description of a given expression; one that is no schedule describes itself. -/
def describeValue (expression : Value) : Value :=
  match expression.text?.map describe with
  | some (.ok description) => .text description
  | _ => expression

/-! ## Upcoming runs -/

/-- Why there are no upcoming runs. -/
inductive UpcomingError
  | timezone (error : TimezoneError)
  | search (error : NextRunError)

/-- The first `count` runs of a listing in a zone after a moment.  Without runs to look for the zone
does not matter. -/
def upcomingRuns (listing : Listing) (zone : Value) (after : Moment) (count : Nat) :
    Except UpcomingError (List Moment) :=
  if count = 0 then .ok []
  else
    match zoneOf zone with
    | .error e => .error (.timezone e)
    | .ok zone => (listing.nextRuns zone after count).mapError .search

/-- The first run of a listing in a zone after a moment. -/
def upcomingRun (listing : Listing) (zone : Value) (after : Moment) :
    Except UpcomingError Moment :=
  match zoneOf zone with
  | .error e => .error (.timezone e)
  | .ok zone => (listing.nextRun zone after).mapError .search

/-! ## Given references and numbers of runs -/

/-- Why upcoming runs are not looked for, or not found. -/
inductive RequestError
  | upcoming (error : UpcomingError)
  /-- The given reference is no moment. -/
  | notAMoment
  /-- The given number of runs is no number. -/
  | notACount

/-- The moment after which runs are looked for: the given one, and now if none is given. -/
def referenceOf? (given : Value) (now : Moment) : Option Moment :=
  if given.isTruthy then
    match given with
    | .moment moment => some moment
    | _ => none
  else some now

/-- The number of runs that a value asks for; a truth value is the number 0 or 1. -/
def countOf? : Value → Option Nat
  | .int n => some n.toNat
  | .bool b => some (if b then 1 else 0)
  | _ => none

/-- What is wrong with a reference that is no moment; a zone that is none is noticed before. -/
def missingReference (zone : Value) : RequestError :=
  match zoneOf zone with
  | .error e => .upcoming (.timezone e)
  | .ok _ => .notAMoment

/-- The first runs of a listing in a zone after a given reference, as many as are asked for. -/
def requestedRuns (listing : Listing) (zone after count : Value) (now : Moment) :
    Except RequestError (List Moment) :=
  match countOf? count with
  | none => .error .notACount
  | some 0 => .ok []
  | some count =>
    match referenceOf? after now with
    | none => .error (missingReference zone)
    | some reference => (upcomingRuns listing zone reference count).mapError .upcoming

/-- The first run of a listing in a zone after a given reference. -/
def requestedRun (listing : Listing) (zone after : Value) (now : Moment) :
    Except RequestError Moment :=
  match referenceOf? after now with
  | none => .error (missingReference zone)
  | some reference => (upcomingRun listing zone reference).mapError .upcoming

end Crontab
