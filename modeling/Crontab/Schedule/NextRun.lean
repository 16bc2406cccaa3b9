import Crontab.Schedule.Listing
import Crontab.Schedule.Search
import Crontab.Time.Moment

/-!
# The next run of a schedule

A schedule runs whenever the clocks of its zone show a minute that fits it.  The search goes through
the readings of the clock in ascending order, reads each one in its first pass, and takes the first
one that the clock really shows and that lies after the reference.  Readings that the clock skips
are passed over.  It starts with the minute after the reference, of which the seconds are kept as a
binary floating point number: far from 1970 that may round the last microseconds of a minute up.

* `Schedule.runAt` — the instant of a reading, if it counts as a run;
* `Schedule.nextAfter` — the search from a given reading on;
* `startMinute` — the minute that a search after a reading starts with;
* `Listing.nextRun`, `Listing.nextRuns` — the next run and the next few runs after a moment;
* `NextRunError` — the causes of failure.

The search for a reading gives up when it has to go beyond the eighth year after the one it started
in.  It starts anew after each reading that is passed over.
-/

namespace Crontab

open Time Text

/-- Why a schedule has no next run. -/
inductive NextRunError
  /-- No reading fits within the years that are searched. -/
  | exhausted
  /-- The listing is no schedule. -/
  | listing (given : Listing) (fault : ListingFault)
  /-- The search for a fitting month leaves the calendar, or its start lies behind the end. -/
  | yearRange
  /-- A calculation leaves the calendar. -/
  | outOfCalendar
deriving DecidableEq, Repr

/-- The wording of the failure of a search. -/
def NextRunError.message : NextRunError → String
  | .exhausted => "No occurrence found for cron expression: failed to find next date"
  | .listing _ .empty =>
    "No occurrence found for cron expression: Exactly 5, 6 or 7 columns has to be specified for "
      ++ "iterator expression."
  | .listing given .negative =>
    "No occurrence found for cron expression: [" ++ given.explicit
      ++ "] is not acceptable, negative numbers not allowed"
  | .listing given .outOfRange =>
    "No occurrence found for cron expression: [" ++ given.explicit
      ++ "] is not acceptable, out of range"
  | .yearRange => "year 10000 is out of range"
  | .outOfCalendar => "date value out of range"

namespace Schedule

/-- How many years after the one it starts in a search goes on. -/
def yearsAhead : Nat := 8

/-- The year of a minute. -/
def yearOfMinute (minute : Nat) : Nat :=
  yearOfDay (minute / minutesPerDay)

/-- The first day that a search from a minute on no longer looks at. -/
def horizon (start : Nat) : Nat :=
  min dayCount (daysBeforeYear (yearOfMinute start + yearsAhead + 1))

/-- Why a search from a minute on found nothing: it gave up, or it ran out of calendar before. -/
def searchFailure (schedule : Schedule) (start : Nat) : NextRunError :=
  if yearOfMinute start + yearsAhead < lastYear then .exhausted
  else if schedule.month.contains 12 then .outOfCalendar
  else .yearRange

/-- Less is left of a stretch behind a point that is not before the start. -/
theorem sub_lt_sub_of_le {limit start found : Nat} (hStart : ¬limit ≤ start)
    (hFound : start ≤ found) : limit - (found + 1) < limit - start := by
  omega

/-- What clocks set to universal time show when a zone's clocks show a minute in its first pass;
nothing if they never show it, or not after `reference`. -/
def runAt (zone : Zone) (reference : Wall) (minute : Nat) : Except NextRunError (Option Wall) :=
  match Wall.ofMinute? minute with
  | none => .error .outOfCalendar
  | some wall =>
    match zone.utcOf? .first wall with
    | none => .error .outOfCalendar
    | some utc =>
      match zone.wallAt? utc with
      | none => .error .outOfCalendar
      | some shown =>
        .ok (if shown = wall ∧ reference.count < utc.count then some utc else none)

/-- What clocks set to universal time show at the first run whose reading is not before the minute
`start` and which lies after `reference`. -/
def nextAfter (schedule : Schedule) (zone : Zone) (reference : Wall) (start : Nat) :
    Except NextRunError Wall :=
  if minuteLimit ≤ start then .error .outOfCalendar
  else
    match _hFit : schedule.firstFit? start (horizon start) with
    | none => .error (schedule.searchFailure start)
    | some fit =>
      match runAt zone reference fit with
      | .error e => .error e
      | .ok (some utc) => .ok utc
      | .ok none => nextAfter schedule zone reference (fit + 1)
termination_by minuteLimit - start
decreasing_by
  exact sub_lt_sub_of_le (by assumption) (le_of_firstFit? _hFit)

end Schedule

/-- The minute that a search after a reading starts with, unless the kept second of the reading lies
behind the end of the calendar. -/
def startMinute (wall : Wall) : Except NextRunError Nat :=
  if dayCount * 86400 ≤ wall.keptSecond then .error .yearRange
  else .ok (wall.keptSecond / 60 + 1)

namespace Listing

/-- The first run of a listing after a moment, on a clock set to universal time.  A naive moment is
read on such a clock as well. -/
def nextRun (listing : Listing) (zone : Zone) (after : Moment) : Except NextRunError Moment :=
  match after.utc? with
  | .error _ => .error .outOfCalendar
  | .ok reference =>
    match zone.wallAt? reference with
    | none => .error .outOfCalendar
    | some wall =>
      match listing.schedule with
      | .error fault => .error (.listing listing fault)
      | .ok schedule => do
        let start ← startMinute wall
        let utc ← schedule.nextAfter zone reference start
        pure (Moment.universal utc)

/-- The first `count` runs of a listing after a moment. -/
def nextRuns (listing : Listing) (zone : Zone) (after : Moment) :
    (count : Nat) → Except NextRunError (List Moment)
  | 0 => .ok []
  | count + 1 => do
    let run ← listing.nextRun zone after
    let rest ← nextRuns listing zone run count
    pure (run :: rest)

end Listing

end Crontab
