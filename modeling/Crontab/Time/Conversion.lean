import Crontab.Text.Blank
import Crontab.Time.Atlas
import Crontab.Time.Pattern
import Crontab.Value.Display

/-!
# Conversions between clocks

Dates are given as moments or as ISO texts, zones by their keys.  A naive date is a reading of the
clock it is said to come from.

* `zoneOf` — the zone of a given name;
* `dateOf` — the moment of a given date;
* `convert`, `fromLocal`, `toLocal` — the same instant on another clock;
* `rendered` — a moment in the form of a given pattern;
* `offsetText`, `isInDst` — the offset of a zone, and whether it is on daylight saving time;
* `isValidTimezone` — whether a value names a zone or describes one;
* `TimezoneError`, `ConversionError` — the causes of failure with their wording.
-/

namespace Crontab.Time

open Text

/-! ## Errors -/

/-- What is wrong with a zone or a date. -/
inductive TimezoneError
  /-- The given value is not the key of a zone. -/
  | unknownZone (given : Value)
  /-- The given text is not a date. -/
  | badDate (given : Value)
  /-- The conversion to or from a zone of the given name leaves the calendar. -/
  | badResult (zone : Value)

namespace TimezoneError

/-- The zone that an error is about, or `null`. -/
def zone : TimezoneError → Value
  | .unknownZone given => given
  | .badDate _ => .null
  | .badResult zone => zone

/-- The wording of an error. -/
def message : TimezoneError → String
  | .unknownZone given =>
    "Invalid timezone: " ++ (if given.text?.any (!·.isEmpty) then given.plain else given.literal)
  | .badDate given => "Invalid ISO date string: '" ++ given.plain ++ "'"
  | .badResult _ => "Invalid timezone conversion result"

end TimezoneError

/-- Why a conversion fails. -/
inductive ConversionError
  | timezone (error : TimezoneError)
  /-- The given value is neither a moment nor a text. -/
  | notADate
  /-- The given pattern is no text. -/
  | notAPattern
  | outOfCalendar

/-- The wording of a value that is no date. -/
def notADateMessage : String :=
  "Invalid date format. Please provide a datetime object or ISO string."

/-! ## Zones and dates -/

/-- The zone of a given name. -/
def zoneOf (name : Value) : Except TimezoneError Zone :=
  match name.text?.bind Zone.ofKey? with
  | some zone => .ok zone
  | none => .error (.unknownZone name)

/-- The moment of a given date; blanks at the ends of a text do not matter. -/
def dateOf (date : Value) : Except ConversionError Moment :=
  match date with
  | .moment moment => .ok moment
  | date =>
    match date.text? with
    | none => .error .notADate
    | some text =>
      match Moment.ofIso (strip text.toList) with
      | .ok moment => .ok moment
      | .error _ => .error (.timezone (.badDate date))

/-- The zone of a name, as a step of a conversion. -/
def conversionZone (name : Value) : Except ConversionError Zone :=
  match zoneOf name with
  | .ok zone => .ok zone
  | .error e => .error (.timezone e)

/-- The result of a calculation, whose failure is reported with the name of a zone. -/
def conversionResult {α : Type} (zone : Value) :
    Except OutOfCalendar α → Except ConversionError α
  | .ok result => .ok result
  | .error _ => .error (.timezone (.badResult zone))

/-! ## Conversions -/

/-- A date on the clock of the zone `target`; a naive date is read in the zone `source`. -/
def convert (date source target : Value) : Except ConversionError Moment := do
  let moment ← dateOf date
  let sourceZone ← conversionZone source
  let targetZone ← conversionZone target
  conversionResult target ((moment.orOnClock (.zoned sourceZone)).inZone? targetZone)

/-- The clock of the place where the program runs: a fixed offset in microseconds with its name. -/
structure LocalClock where
  offset : Int
  name : String
deriving DecidableEq, Repr

/-- The local clock of a place that keeps universal time. -/
def LocalClock.universal : LocalClock := ⟨0, "UTC"⟩

/-- A naive moment as a reading of the local clock.  The system's clock is asked for the readings
an offset later and a day earlier (on the second pass a day later), which have to be in the calendar
as well. -/
def LocalClock.read (clock : LocalClock) (moment : Moment) : Except OutOfCalendar Moment :=
  let probe : Int := if moment.pass = .first then -(day : Int) else day
  if (moment.wall.shift? clock.offset).isSome && (moment.wall.shift? probe).isSome then do
    let utc ← (moment.onClock (.fixed clock.offset (some clock.name))).utc?
    Moment.ofUtcFixed? utc clock.offset (some clock.name)
  else .error ⟨⟩

/-- A date on the clock of the zone `target`; a naive date is a reading of the local clock. -/
def fromLocal (clock : LocalClock) (date target : Value) : Except ConversionError Moment := do
  let moment ← dateOf date
  let targetZone ← conversionZone target
  conversionResult target do
    let aware ← if moment.isNaive then clock.read moment else pure moment
    aware.inZone? targetZone

/-- A date on the local clock; a naive date is read in the zone `source`. -/
def toLocal (clock : LocalClock) (date source : Value) : Except ConversionError Moment := do
  let moment ← dateOf date
  let sourceZone ← conversionZone source
  conversionResult source
    ((moment.orOnClock (.zoned sourceZone)).inFixed? clock.offset (some clock.name))

/-- A moment as the answer of a conversion: in the form of a pattern if one is given. -/
def rendered (pattern : Value) (moment : Moment) : Except ConversionError Value :=
  if pattern.isTruthy then
    match pattern.text? with
    | some pattern => .ok (.text (moment.format pattern))
    | none => .error .notAPattern
  else .ok (.moment moment)

/-! ## Offsets -/

/-- What the clocks of a zone show at a moment. -/
def momentIn (name : Value) (now : Moment) : Except ConversionError Moment := do
  let zone ← conversionZone name
  match now.inZone? zone with
  | .ok moment => .ok moment
  | .error _ => .error .outOfCalendar

/-- Whether the clocks of a zone are on daylight saving time. -/
def isInDst (name : Value) (now : Moment) : Except ConversionError Bool :=
  (momentIn name now).map fun moment => moment.localType?.any (·.saving ≠ 0)

/-- The whole seconds of an offset in microseconds, without its fraction, as `±HH:MM`. -/
def offsetText (offset : Int) : String :=
  let seconds := offset.tdiv second
  let size := seconds.natAbs
  String.ofList ((if 0 ≤ seconds then '+' else '-') ::
    padded 2 (size / 3600) ++ ':' :: padded 2 (size / 60 % 60))

/-- The offset of a zone at a date, or now if no date is given. -/
def zoneOffset (name date : Value) (now : Moment) : Except ConversionError String := do
  let moment ← if date.isNull then momentIn name now else convert date (.text "UTC") name
  pure (offsetText (moment.offset?.getD 0))

/-! ## Validity -/

/-- The name of a zone in a text, or in the `type` of a description. -/
def zoneName? (spec : Value) : Option Value :=
  match spec with
  | .mapping fields => some ((Fields.get? fields "type").getD .null)
  | spec => if spec.text?.isSome then some spec else spec.attribute? "type"

/-- Whether a value is the key of a zone, or a description with a `type` that is one.  The clocks of
the zone are asked for the time, which fails if what they show is not in the calendar. -/
def isValidTimezone (spec : Value) (now : Moment) : Except OutOfCalendar Bool :=
  if spec.isTruthy then
    match (zoneName? spec).bind fun name => name.text?.bind Zone.ofKey? with
    | some zone => (now.inZone? zone).map fun _ => true
    | none => .ok false
  else .ok false

end Crontab.Time
