import Crontab.Time.Wall

/-!
# Time zones

A zone tells for every instant what its clocks show.  Inside this file an instant is a number of
seconds from the beginning of 1970 in universal time, and a wall reading is the same number computed
from what the clock shows.

* `LocalType` — an offset from universal time with its saving and its abbreviation;
* `Timeline` — a first local type and the changes from there on;
* `Rule` — the pattern that holds after the last recorded change, one timeline for each year;
* `Zone.typeAt` — the local type in force at an instant;
* `Zone.typeOnWall` — the local type meant by a wall reading.

A wall reading is ambiguous when clocks are set back, and void when they are set forward.  Both are
settled by a pass: on the first pass a change is seen on the wall when the later of the two clocks
reaches it, on the second pass when the earlier one does.
-/

namespace Crontab.Time

/-- How the clocks of a zone are set for some time; offset and saving are in seconds. -/
structure LocalType where
  offset : Int
  saving : Int
  abbreviation : String
deriving DecidableEq, Repr

/-- The offset of a local type in microseconds. -/
def LocalType.span (type : LocalType) : Int :=
  type.offset * second

/-- An instant from which another local type is in force. -/
structure Change where
  instant : Int
  into : LocalType
deriving DecidableEq, Repr

/-- A first local type and the changes from there on, in ascending order. -/
structure Timeline where
  before : LocalType
  changes : List Change
deriving DecidableEq, Repr

/-- The two passes over a wall reading. -/
inductive Pass
  | first
  | second
deriving DecidableEq, Repr

namespace Timeline

/-- The local type in force after those of the changes that are not beyond `limit`, where `place`
puts a change out of a local type on the scale of `limit`. -/
def lookup (place : LocalType → Change → Int) (current : LocalType) (limit : Int) :
    List Change → LocalType
  | [] => current
  | change :: rest =>
    if place current change ≤ limit then lookup place change.into limit rest else current

/-- Where the last change stands on the scale of `place`, if there is any change. -/
def lastPlace? (place : LocalType → Change → Int) (current : LocalType) :
    List Change → Option Int
  | [] => none
  | [change] => some (place current change)
  | change :: rest => lastPlace? place change.into rest

/-- The instant of a change. -/
def atInstant (_ : LocalType) (change : Change) : Int :=
  change.instant

/-- The wall reading at which a change is seen in a pass. -/
def onWall (pass : Pass) (current : LocalType) (change : Change) : Int :=
  match pass with
  | .first => change.instant + max current.offset change.into.offset
  | .second => change.instant + min current.offset change.into.offset

end Timeline

/-- A yearly change: on a weekday of a month (the fifth one is the last one) at some seconds of
wall time after midnight. -/
structure YearlyChange where
  month : Nat
  week : Nat
  weekday : Nat
  seconds : Int
deriving DecidableEq, Repr

/-- The day of a year on which a yearly change falls. -/
def YearlyChange.dayIn (change : YearlyChange) (year : Nat) : Nat :=
  let first := (Date.mk year change.month 1).dayNumber
  let offset := (change.weekday + 7 - Time.weekday first) % 7 + 7 * (change.week - 1)
  if offset < monthLength year change.month then first + offset else first + offset - 7

/-- The wall reading of a yearly change. -/
def YearlyChange.wallIn (change : YearlyChange) (year : Nat) : Int :=
  (change.dayIn year : Int) * 86400 - epoch + change.seconds

/-- What holds after the last recorded change: one local type for good, or two that alternate every
year. -/
inductive Rule
  | fixed (type : LocalType)
  | alternating (standard : LocalType) (daylight : LocalType) (start finish : YearlyChange)
deriving DecidableEq, Repr

/-- The timeline of a year under a rule. -/
def Rule.timeline (rule : Rule) (year : Nat) : Timeline :=
  match rule with
  | .fixed type => ⟨type, []⟩
  | .alternating standard daylight start finish =>
    let spring : Change := ⟨start.wallIn year - standard.offset, daylight⟩
    let autumn : Change := ⟨finish.wallIn year - daylight.offset, standard⟩
    if spring.instant < autumn.instant then ⟨standard, [spring, autumn]⟩
    else ⟨daylight, [autumn, spring]⟩

/-- A zone: its key, the recorded timeline, and the rule in force afterwards. -/
structure Zone where
  key : String
  recorded : Timeline
  rule : Rule
deriving DecidableEq, Repr

namespace Zone

/-- The local type found by placing the changes with `place`: in the recorded timeline up to its
last change, and after it in the timeline of the given year under the rule. -/
def find (zone : Zone) (place : LocalType → Change → Int) (year : Nat) (limit : Int) : LocalType :=
  let recorded := zone.recorded
  let later := zone.rule.timeline year
  match Timeline.lastPlace? place recorded.before recorded.changes with
  | some last =>
    if limit ≤ last then Timeline.lookup place recorded.before limit recorded.changes
    else Timeline.lookup place later.before limit later.changes
  | none => Timeline.lookup place later.before limit later.changes

/-- The seconds of a reading on the scale of this file. -/
def secondsOf (wall : Wall) : Int :=
  (wall.count / Time.second : Nat) - epoch

/-- The local type in force at the instant at which clocks set to universal time show `utc`. -/
def typeAt (zone : Zone) (utc : Wall) : LocalType :=
  zone.find Timeline.atInstant (yearOfDay utc.dayNumber) (secondsOf utc)

/-- The local type meant by a reading of the zone's clocks in a pass. -/
def typeOnWall (zone : Zone) (pass : Pass) (wall : Wall) : LocalType :=
  zone.find (Timeline.onWall pass) (yearOfDay wall.dayNumber) (secondsOf wall)

/-- What the zone's clocks show when clocks set to universal time show `utc`. -/
def wallAt? (zone : Zone) (utc : Wall) : Option Wall :=
  utc.shift? (zone.typeAt utc).span

/-- What clocks set to universal time show at a reading of the zone's clocks in a pass. -/
def utcOf? (zone : Zone) (pass : Pass) (wall : Wall) : Option Wall :=
  wall.shift? (-(zone.typeOnWall pass wall).span)

/-- The pass in which a reading of the zone's clocks stands, when clocks set to universal time show
`utc`: the second one if the first pass means another offset. -/
def passAt (zone : Zone) (utc wall : Wall) : Pass :=
  if (zone.typeOnWall .first wall).offset = (zone.typeAt utc).offset then .first else .second

end Zone

end Crontab.Time
