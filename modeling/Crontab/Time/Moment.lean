import Crontab.Time.Zone
import Crontab.Text.Numeral

/-!
# Moments

A moment is a reading of a clock together with what is known about the clock: nothing, a fixed
offset from universal time, or a zone.  In the first case it is naive and denotes no instant.

* `Clock`, `Moment` — the two types;
* `Moment.offset?`, `Moment.instant?` — the offset and the instant, in microseconds;
* `Moment.inZone?`, `Moment.inFixed?` — the same instant on another clock.

A conversion fails with `OutOfCalendar` if it leaves the years 1 to 9999.  A moment that is already
on the clock of the wanted zone is returned as it is.
-/

namespace Crontab.Time

open Text

/-- What is known about a clock.  Offsets are in microseconds; a fixed offset may have a name. -/
inductive Clock
  | naive
  | fixed (offset : Int) (name : Option String)
  | zoned (zone : Zone)
deriving DecidableEq, Repr

/-- A reading of a clock, in the first or the second pass over it. -/
structure Moment where
  wall : Wall
  clock : Clock
  pass : Pass
deriving DecidableEq, Repr

/-- The failure of a calculation that leaves the years 1 to 9999. -/
structure OutOfCalendar where
deriving DecidableEq, Repr

/-- The clock of universal time. -/
def Clock.universal : Clock := .fixed 0 (some "UTC")

/-- An offset in microseconds as `+HH:MM`, followed by the seconds and the microseconds as far as
they are not zero. -/
def offsetChars (colon : List Char) (offset : Int) : List Char :=
  let size := offset.natAbs
  let sign := if offset < 0 then '-' else '+'
  let seconds := size / second % 60
  let fraction := size % second
  sign :: padded 2 (size / hour) ++ colon ++ padded 2 (size / minute % 60) ++
    (if seconds = 0 ∧ fraction = 0 then [] else colon ++ padded 2 seconds) ++
    (if fraction = 0 then [] else '.' :: padded 6 fraction)

namespace Moment

/-- The moment at which clocks set to universal time show a reading. -/
def universal (wall : Wall) : Moment :=
  ⟨wall, .universal, .first⟩

/-- Whether nothing is known about the clock. -/
def isNaive (moment : Moment) : Bool :=
  moment.clock = .naive

/-- The local type in force, for a moment in a zone. -/
def localType? (moment : Moment) : Option LocalType :=
  match moment.clock with
  | .zoned zone => some (zone.typeOnWall moment.pass moment.wall)
  | _ => none

/-- The offset from universal time in microseconds, unless the moment is naive. -/
def offset? (moment : Moment) : Option Int :=
  match moment.clock with
  | .naive => none
  | .fixed offset _ => some offset
  | .zoned zone => some (zone.typeOnWall moment.pass moment.wall).span

/-- The instant as microseconds of universal time from the beginning of year 1, unless the moment
is naive. -/
def instant? (moment : Moment) : Option Int :=
  moment.offset?.map fun offset => (moment.wall.count : Int) - offset

/-- The moment on a clock, whatever its clock was before. -/
def onClock (moment : Moment) (clock : Clock) : Moment :=
  { moment with clock := clock }

/-- A naive moment read on the given clock; other moments as they are. -/
def orOnClock (moment : Moment) (clock : Clock) : Moment :=
  if moment.isNaive then moment.onClock clock else moment

/-- What clocks set to universal time show at a moment.  A naive moment is taken to be read on such
a clock. -/
def utc? (moment : Moment) : Except OutOfCalendar Wall :=
  match moment.wall.shift? (-(moment.offset?.getD 0)) with
  | some utc => .ok utc
  | none => .error ⟨⟩

/-- The moment at which clocks set to universal time show `utc`, on the clock of a fixed offset. -/
def ofUtcFixed? (utc : Wall) (offset : Int) (name : Option String) :
    Except OutOfCalendar Moment :=
  match utc.shift? offset with
  | some wall => .ok ⟨wall, .fixed offset name, .first⟩
  | none => .error ⟨⟩

/-- The moment at which clocks set to universal time show `utc`, on the clock of a zone. -/
def ofUtcZone? (utc : Wall) (zone : Zone) : Except OutOfCalendar Moment :=
  match zone.wallAt? utc with
  | some wall => .ok ⟨wall, .zoned zone, zone.passAt utc wall⟩
  | none => .error ⟨⟩

/-- Whether the moment is on the clock of a zone. -/
def isIn (moment : Moment) (zone : Zone) : Bool :=
  match moment.clock with
  | .zoned own => own.key = zone.key
  | _ => false

/-- The same instant on the clock of a zone. -/
def inZone? (moment : Moment) (zone : Zone) : Except OutOfCalendar Moment :=
  if moment.isIn zone then .ok moment
  else do
    let utc ← moment.utc?
    ofUtcZone? utc zone

/-- The same instant on a clock of a fixed offset. -/
def inFixed? (moment : Moment) (offset : Int) (name : Option String) :
    Except OutOfCalendar Moment := do
  let utc ← moment.utc?
  ofUtcFixed? utc offset name

/-- The moment a number of microseconds later on the same clock. -/
def later? (moment : Moment) (span : Int) : Except OutOfCalendar Moment :=
  match moment.wall.shift? span with
  | some wall => .ok ⟨wall, moment.clock, .first⟩
  | none => .error ⟨⟩

/-- The name of the clock: the abbreviation in force in a zone, and for a fixed offset its own name
or `UTC` with the offset. -/
def clockName (moment : Moment) : String :=
  match moment.clock with
  | .naive => ""
  | .fixed _ (some name) => name
  | .fixed offset none =>
    if offset = 0 then "UTC" else "UTC" ++ String.ofList (offsetChars [':'] offset)
  | .zoned zone => (zone.typeOnWall moment.pass moment.wall).abbreviation

end Moment

end Crontab.Time
