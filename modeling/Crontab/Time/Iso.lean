import Crontab.Time.Moment
import Crontab.Text.Quoted

/-!
# ISO texts of moments

The written form is `YYYY-MM-DDTHH:MM:SS`, with six digits of microseconds if they are not zero and
with the offset unless the moment is naive.

The reader takes more: dates without hyphens and dates by week, any character between date and
time, times without colons and without seconds, fractions after a point or a comma, and offsets in
the form of a time.

* `Moment.iso` — writing;
* `Moment.ofIso` — reading;
* `IsoFault` — the causes of failure with their wording.
-/

namespace Crontab.Time

open Text

/-! ## Writing -/

/-- The written form of a date. -/
def Date.isoChars (date : Date) : List Char :=
  padded 4 date.year ++ '-' :: padded 2 date.month ++ '-' :: padded 2 date.day

/-- The written form of a reading. -/
def Wall.isoChars (wall : Wall) : List Char :=
  wall.date.isoChars ++ 'T' :: padded 2 wall.hour ++ ':' :: padded 2 wall.minute ++
    ':' :: padded 2 wall.second ++
    (if wall.microsecond = 0 then [] else '.' :: padded 6 wall.microsecond)

/-- The written form of a moment. -/
def Moment.isoChars (moment : Moment) : List Char :=
  moment.wall.isoChars ++
    match moment.offset? with
    | none => []
    | some offset => offsetChars [':'] offset

/-- The written form of a moment. -/
def Moment.iso (moment : Moment) : String :=
  String.ofList moment.isoChars

/-! ## Faults -/

/-- Why a text is no moment: its form, or a number out of range. -/
inductive IsoFault
  | malformed (text : List Char)
  | offsetRange (offset : Int)
  | yearRange (year : Nat)
  | monthRange
  | dayRange
  | hourRange
  | minuteRange
  | secondRange
deriving DecidableEq, Repr

/-- A span of microseconds in days, and the seconds and microseconds that go beyond them. -/
def spanText (span : Int) : String :=
  let days := span / (day : Int)
  let rest := (span % (day : Int)).toNat
  let seconds := rest / second
  let micros := rest % second
  let parts :=
    (if days = 0 then [] else ["days=" ++ toString days]) ++
    (if seconds = 0 then [] else ["seconds=" ++ toString seconds]) ++
    (if micros = 0 then [] else ["microseconds=" ++ toString micros])
  "datetime.timedelta(" ++ (if parts.isEmpty then "0" else ", ".intercalate parts) ++ ")"

/-- The wording of a fault. -/
def IsoFault.message : IsoFault → String
  | .malformed text => "Invalid isoformat string: " ++ String.ofList (quotedChars text)
  | .offsetRange offset =>
    "offset must be a timedelta strictly between -timedelta(hours=24) and timedelta(hours=24), not "
      ++ spanText offset ++ "."
  | .yearRange year => "year " ++ toString year ++ " is out of range"
  | .monthRange => "month must be in 1..12"
  | .dayRange => "day is out of range for month"
  | .hourRange => "hour must be in 0..23"
  | .minuteRange => "minute must be in 0..59"
  | .secondRange => "second must be in 0..59"

/-! ## Reading dates -/

/-- The number written as ASCII digits only. -/
def digits? (text : List Char) : Option Nat :=
  if isNumeral text then some (numeralValue text) else none

/-- Where the date part of a text ends, judged by its hyphens and its week mark; zero if there is no
such place. -/
def datePartLength (text : List Char) : Nat :=
  let length := text.length
  let has (i : Nat) (c : Char) : Bool := text[i]? = some c
  if length = 7 then 7
  else if has 4 '-' then
    if has 5 'W' then
      if has 8 '-' then
        if length = 9 then 0 else if text[10]?.any Char.isDigit then 8 else 10
      else 8
    else 10
  else if has 4 'W' then
    let digits := ((text.drop 7).takeWhile Char.isDigit).length
    if digits < 2 then 7 + digits else if digits % 2 = 1 then 7 else 8
  else 8

/-- What the date part of a text says, before it is checked: a date, or a day of a counted week. -/
inductive DateReading
  | date (date : Date)
  | weekDay (year week isoDay : Nat)
deriving DecidableEq, Repr

/-- Reads the week and the weekday that follow a year and its week mark.  Weeks and weekdays have to
exist; without a weekday Monday is meant. -/
def readWeek? (hyphens : Bool) (year : Nat) (text : List Char) : Option DateReading := do
  let week ← digits? (text.take 2)
  let isoDay ←
    match hyphens, text.drop 2 with
    | _, [] => if text.length = 2 then some 1 else none
    | true, ['-', c] => digits? [c]
    | false, [c] => digits? [c]
    | _, _ => none
  if 1 ≤ week ∧ week ≤ isoWeekCount year ∧ 1 ≤ isoDay ∧ isoDay ≤ 7 then
    some (.weekDay year week isoDay)
  else none

/-- Reads the month and the day that follow a year. -/
def readMonthDay? (hyphens : Bool) (year : Nat) (text : List Char) : Option DateReading :=
  match hyphens, text with
  | true, [a, b, '-', c, d] => do
    let month ← digits? [a, b]
    let day ← digits? [c, d]
    some (.date ⟨year, month, day⟩)
  | false, [a, b, c, d] => do
    let month ← digits? [a, b]
    let day ← digits? [c, d]
    some (.date ⟨year, month, day⟩)
  | _, _ => none

/-- Reads the date part of a text. -/
def readDate? (text : List Char) : Option DateReading := do
  let year ← digits? (text.take 4)
  match text.drop 4 with
  | '-' :: 'W' :: rest => readWeek? true year rest
  | 'W' :: rest => readWeek? false year rest
  | '-' :: rest => readMonthDay? true year rest
  | rest => readMonthDay? false year rest

/-- The day that a date reading means, if it is in the calendar.  The weeks of year 0 lie before it
and have no month. -/
def DateReading.day : DateReading → Except IsoFault Nat
  | .date given =>
    if given.year < 1 ∨ lastYear < given.year then .error (.yearRange given.year)
    else if given.month < 1 ∨ 12 < given.month then .error .monthRange
    else if given.day < 1 ∨ monthLength given.year given.month < given.day then .error .dayRange
    else .ok given.dayNumber
  | .weekDay year week isoDay =>
    let number := isoWeekStart year + (week - 1) * 7 + (isoDay - 1)
    if year = 0 then .error .monthRange
    else if dayCount ≤ number then .error (.yearRange (lastYear + 1))
    else .ok number

/-! ## Reading times -/

/-- A time of day as it is written, before it is checked. -/
structure TimeReading where
  hour : Nat
  minute : Nat
  second : Nat
  microsecond : Nat
deriving DecidableEq, Repr

/-- The microseconds of a time as it is written. -/
def TimeReading.span (time : TimeReading) : Nat :=
  Wall.timeOfDay time.hour time.minute time.second time.microsecond

/-- The time in hours, minutes and seconds, of which the last ones may be missing, and a
microsecond. -/
def TimeReading.ofParts (parts : List Nat) (microsecond : Nat) : TimeReading :=
  ⟨parts.getD 0 0, parts.getD 1 0, parts.getD 2 0, microsecond⟩

/-- The microseconds of the digits of a fraction; digits after the sixth one do not count. -/
def fractionValue (digits : List Char) : Nat :=
  numeralValue ((digits ++ List.replicate 6 '0').take 6)

/-- Reads the digits of a fraction and gives what follows them: the first six characters, or all if
there are fewer, have to be digits. -/
def readFractionDigits? (text : List Char) : Option (Nat × List Char) :=
  if isNumeral (text.take 6) then
    some (fractionValue (text.take 6), (text.drop 6).dropWhile Char.isDigit)
  else none

/-- Reads hours, minutes and seconds of two digits each, and a fraction after any of them.  Either
there are colons between all of them or between none.  The answer holds the numbers read and what is
left; a single character is left unread if it takes a single octet. -/
def readParts? (colons : Bool) : (count : Nat) → List Char → Option (List Nat × Nat × List Char)
  | 0, _ => none
  | count + 1, text => do
    let part ← if text.length < 2 then none else digits? (text.take 2)
    match text.drop 2 with
    | [] => some ([part], 0, [])
    | [c] => if c.toNat < 0x80 then some ([part], 0, [c]) else none
    | c :: rest =>
      if c = '.' ∨ c = ',' ∨ (colons ∧ c = ':' ∧ count = 0) then do
        let (fraction, left) ← readFractionDigits? rest
        some ([part], fraction, left)
      else if colons then
        if c = ':' then do
          let (parts, fraction, left) ← readParts? colons count rest
          some (part :: parts, fraction, left)
        else none
      else if count = 0 then do
        let (fraction, left) ← readFractionDigits? (c :: rest)
        some ([part], fraction, left)
      else do
        let (parts, fraction, left) ← readParts? colons count (c :: rest)
        some (part :: parts, fraction, left)

/-- Reads a time and gives what is left of the text. -/
def readTime? (text : List Char) : Option (TimeReading × List Char) := do
  let (parts, fraction, left) ← readParts? (text[2]? = some ':') 3 text
  some (.ofParts parts fraction, left)

/-- Whether nothing is left of a text; a NUL character counts as its end. -/
def isSpent : List Char → Bool
  | [] => true
  | c :: _ => c.toNat = 0

/-- Whether a character starts an offset. -/
def isOffsetSign (c : Char) : Bool :=
  c = '+' || c = '-' || c = 'Z'

/-- Reads an offset in microseconds, signed as it is written.  An offset of zero seconds is
universal time. -/
def readOffset? : List Char → Option Int
  | 'Z' :: rest => if isSpent rest then some 0 else none
  | sign :: rest => do
    let (time, left) ← readTime? rest
    if !isSpent left then none
    else
      let span : Int := time.span
      some (if time.span < second then 0 else if sign = '-' then -span else span)
  | [] => none

/-- Reads the time part of a text: a time, and an offset behind it.  What is left of the time in
front of an offset does not matter. -/
def readTimePart? (text : List Char) : Option (TimeReading × Option Int) := do
  let (time, left) ← readTime? (text.takeWhile (!isOffsetSign ·))
  match text.dropWhile (!isOffsetSign ·) with
  | [] => if isSpent left then some (time, none) else none
  | offset => do
    let offset ← readOffset? offset
    some (time, some offset)

/-- The clock that a written offset means.  Offsets stay below a day. -/
def clockOfOffset : Option Int → Except IsoFault Clock
  | none => .ok .naive
  | some offset =>
    if offset = 0 then .ok .universal
    else if offset.natAbs < day then .ok (.fixed offset none)
    else .error (.offsetRange offset)

/-- Checks a time of day. -/
def TimeReading.check (time : TimeReading) : Except IsoFault Nat :=
  if 24 ≤ time.hour then .error .hourRange
  else if 60 ≤ time.minute then .error .minuteRange
  else if 60 ≤ time.second then .error .secondRange
  else .ok time.span

/-- Reads a text in its two parts, around one separating character. -/
def readParts (text : List Char) : Option (DateReading × TimeReading × Option Int) := do
  if text.length < 7 then none
  else
    let length := datePartLength text
    let date ← readDate? (text.take length)
    match text.drop length with
    | [] => some (date, ⟨0, 0, 0, 0⟩, none)
    | _ :: rest => do
      let (time, offset) ← readTimePart? rest
      some (date, time, offset)

/-- The moment of a text. -/
def Moment.ofIsoChars (text : List Char) : Except IsoFault Moment :=
  match readParts text with
  | none => .error (.malformed text)
  | some (date, time, offset) => do
    let clock ← clockOfOffset offset
    let number ← date.day
    let timeOfDay ← time.check
    match Wall.ofCount? (number * day + timeOfDay : Nat) with
    | some wall => .ok ⟨wall, clock, .first⟩
    | none => .error (.yearRange (lastYear + 1))

/-- The text with every `Z` spelled out as the offset zero. -/
def spellUniversal (text : List Char) : List Char :=
  text.flatMap fun c => if c = 'Z' then ['+', '0', '0', ':', '0', '0'] else [c]

/-- The moment of a text in which `Z` stands for the offset zero. -/
def Moment.ofIso (text : List Char) : Except IsoFault Moment :=
  Moment.ofIsoChars (spellUniversal text)

end Crontab.Time
