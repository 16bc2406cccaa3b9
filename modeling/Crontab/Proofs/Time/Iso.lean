import Crontab.Proofs.Data.Outcomes
import Crontab.Proofs.Text.Numerals
import Crontab.Proofs.Time.Calendar
import Crontab.Proofs.Time.FirstPass
import Crontab.Time.Iso
import Mathlib.Data.List.TakeWhile

/-!
# Reading ISO texts back

The ISO text of a moment is read as the same reading of a clock with the same offset.  Offsets of
less than a second are the exception: they are read as none at all.

* `readTime?_minutes`, `readTime?_seconds`, `readTime?_fraction` — the three forms of a time;
* `readOffset?_offsetChars` — the offset that is read for a written one;
* `readDate?_isoChars`, `Wall.readTime?_timeChars` — the two halves of a reading;
* `Moment.isIsoChar_of_mem`, `Moment.spellUniversal_isoChars` — the characters of a text;
* `Moment.restored`, `Moment.ofIso_isoChars` — what is read for the text of a moment.
-/

namespace Crontab.Time

open Text

/-! ## Numerals in front of a text -/

section front

variable {width n : Nat}

/-- A padded number is the front of a text that starts with it. -/
theorem take_padded_append (hWidth : 0 < width) (h : n < 10 ^ width) (rest : List Char) :
    (padded width n ++ rest).take width = padded width n :=
  List.take_left' (length_padded hWidth h)

/-- What follows a padded number is left when its width is dropped. -/
theorem drop_padded_append (hWidth : 0 < width) (h : n < 10 ^ width) (rest : List Char) :
    (padded width n ++ rest).drop width = rest :=
  List.drop_left' (length_padded hWidth h)

/-- The digits of a padded number are read as that number. -/
theorem digits?_padded (width n : Nat) : digits? (padded width n) = some n := by
  rw [digits?, if_pos (isNumeral_padded width n), numeralValue_padded]

/-- A number below 100 is padded to two digits. -/
theorem exists_padded_two (h : n < 100) :
    ∃ a b, padded 2 n = [a, b] ∧ a.isDigit = true ∧ b.isDigit = true := by
  obtain ⟨a, b, hPadded⟩ := List.length_eq_two.1 (length_padded (by decide : 0 < 2) h)
  have hDigits := isDigit_of_isNumeral (isNumeral_padded 2 n)
  rw [hPadded] at hDigits
  exact ⟨a, b, hPadded, hDigits a (by simp), hDigits b (by simp)⟩

end front

/-! ## Times -/

section times

variable {hours minutes seconds micros : Nat}

/-- The text of a number and what follows it is long enough to be read. -/
theorem not_length_padded_append_lt (h : hours < 100) (rest : List Char) :
    ¬(padded 2 hours ++ rest).length < 2 := by
  rw [List.length_append, length_padded (by decide) h]
  omega

/-- The last pair of digits is the last part read. -/
theorem readParts?_padded (colons : Bool) (count : Nat) (h : hours < 100) :
    readParts? colons (count + 1) (padded 2 hours) = some ([hours], 0, []) := by
  have hLength := length_padded (by decide : 0 < 2) h
  have hNot : ¬(padded 2 hours).length < 2 := by omega
  have hTake : (padded 2 hours).take 2 = padded 2 hours := List.take_of_length_le (by omega)
  have hDrop : (padded 2 hours).drop 2 = [] := List.drop_of_length_le (by omega)
  rw [readParts?]
  simp only [if_neg hNot, hTake, hDrop, digits?_padded, Option.bind_eq_bind, Option.bind_some]

/-- After a pair of digits and a colon the other parts are read. -/
theorem readParts?_colon (count : Nat) (h : hours < 100) {rest : List Char} (hRest : rest ≠ []) :
    readParts? true (count + 2) (padded 2 hours ++ ':' :: rest) =
      (readParts? true (count + 1) rest).map fun (parts, fraction, left) =>
        (hours :: parts, fraction, left) := by
  obtain ⟨c, tail, rfl⟩ := List.exists_cons_of_ne_nil hRest
  rw [readParts?]
  simp only [if_neg (not_length_padded_append_lt h _), take_padded_append (by decide : 0 < 2) h,
    drop_padded_append (by decide : 0 < 2) h, digits?_padded, Option.bind_eq_bind,
    Option.bind_some]
  have hMark : ¬(':' = '.' ∨ ':' = ',' ∨ True ∧ True ∧ count + 1 = 0) := by simp
  rw [if_neg hMark, if_pos trivial, if_pos trivial]
  cases readParts? true (count + 1) (c :: tail) <;> rfl

/-- Six digits of a fraction are read as microseconds. -/
theorem readFractionDigits?_padded (hMicros : micros < 1000000) :
    readFractionDigits? (padded 6 micros) = some (micros, []) := by
  have hLength : (padded 6 micros).length = 6 := length_padded (by decide) hMicros
  have hTake : (padded 6 micros).take 6 = padded 6 micros := List.take_of_length_le (by omega)
  have hDrop : (padded 6 micros).drop 6 = [] := List.drop_of_length_le (by omega)
  rw [readFractionDigits?, hTake, hDrop, if_pos (isNumeral_padded 6 micros), fractionValue,
    List.take_left' hLength, numeralValue_padded]
  rfl

/-- Seconds with a fraction are read with their microseconds. -/
theorem readParts?_fraction (count : Nat) (h : seconds < 100) (hMicros : micros < 1000000) :
    readParts? true (count + 1) (padded 2 seconds ++ '.' :: padded 6 micros) =
      some ([seconds], micros, []) := by
  have hFraction := readFractionDigits?_padded hMicros
  obtain ⟨c, tail, hCons⟩ := List.exists_cons_of_ne_nil
    (ne_nil_of_isNumeral (isNumeral_padded 6 micros))
  rw [hCons] at hFraction ⊢
  rw [readParts?]
  simp only [if_neg (not_length_padded_append_lt h _), take_padded_append (by decide : 0 < 2) h,
    drop_padded_append (by decide : 0 < 2) h, digits?_padded, Option.bind_eq_bind,
    Option.bind_some, hFraction, true_or, if_true]

/-- A time starts with a number and a colon. -/
theorem getElem?_two_colon (h : hours < 100) (rest : List Char) :
    (padded 2 hours ++ ':' :: rest)[2]? = some ':' := by
  rw [List.getElem?_append_right (by rw [length_padded (by decide) h]),
    length_padded (by decide) h]
  rfl

/-- Hours and minutes are read as such. -/
theorem readTime?_minutes (hHours : hours < 100) (hMinutes : minutes < 100) :
    readTime? (padded 2 hours ++ ':' :: padded 2 minutes) =
      some (⟨hours, minutes, 0, 0⟩, []) := by
  have hNe := ne_nil_of_isNumeral (isNumeral_padded 2 minutes)
  rw [readTime?, getElem?_two_colon hHours, decide_eq_true rfl, readParts?_colon 1 hHours hNe,
    readParts?_padded true 1 hMinutes]
  rfl

/-- Hours, minutes and seconds are read as such. -/
theorem readTime?_seconds (hHours : hours < 100) (hMinutes : minutes < 100)
    (hSeconds : seconds < 100) :
    readTime? (padded 2 hours ++ ':' :: (padded 2 minutes ++ ':' :: padded 2 seconds)) =
      some (⟨hours, minutes, seconds, 0⟩, []) := by
  have hNe := ne_nil_of_isNumeral (isNumeral_padded 2 seconds)
  rw [readTime?, getElem?_two_colon hHours, decide_eq_true rfl,
    readParts?_colon 1 hHours (by simp), readParts?_colon 0 hMinutes hNe,
    readParts?_padded true 0 hSeconds]
  rfl

/-- Hours, minutes, seconds and a fraction are read as such. -/
theorem readTime?_fraction (hHours : hours < 100) (hMinutes : minutes < 100)
    (hSeconds : seconds < 100) (hMicros : micros < 1000000) :
    readTime? (padded 2 hours ++ ':' :: (padded 2 minutes ++ ':' ::
        (padded 2 seconds ++ '.' :: padded 6 micros))) =
      some (⟨hours, minutes, seconds, micros⟩, []) := by
  rw [readTime?, getElem?_two_colon hHours, decide_eq_true rfl,
    readParts?_colon 1 hHours (by simp), readParts?_colon 0 hMinutes (by simp),
    readParts?_fraction 0 hSeconds hMicros]
  rfl

end times

/-! ## Offsets -/

/-- A span taken apart into hours, minutes, seconds and microseconds has its old length. -/
theorem span_parts (size : Nat) :
    (TimeReading.mk (size / hour) (size / minute % 60) (size / second % 60) (size % second)).span =
      size := by
  unfold TimeReading.span Wall.timeOfDay hour minute second
  simp only
  omega

/-- The text of an offset starts with its sign. -/
theorem offsetChars_eq_cons (offset : Int) :
    offsetChars [':'] offset =
      (if offset < 0 then '-' else '+') :: (offsetChars [':'] offset).tail := rfl

/-- Behind its sign an offset is written like a time. -/
theorem readTime?_offsetChars {offset : Int} (h : offset.natAbs < day) :
    readTime? (offsetChars [':'] offset).tail =
      some (⟨offset.natAbs / hour, offset.natAbs / minute % 60, offset.natAbs / second % 60,
        offset.natAbs % second⟩, []) := by
  have hHours : offset.natAbs / hour < 100 := by
    unfold day at h
    unfold hour
    omega
  have hMinutes : offset.natAbs / minute % 60 < 100 := by omega
  have hSeconds : offset.natAbs / second % 60 < 100 := by omega
  have hMicros : offset.natAbs % second < 1000000 := Nat.mod_lt _ (by decide)
  unfold offsetChars
  simp only [List.tail_cons, List.append_assoc, List.cons_append]
  by_cases hFraction : offset.natAbs % second = 0
  · by_cases hWhole : offset.natAbs / second % 60 = 0
    · rw [if_pos ⟨hWhole, hFraction⟩, if_pos hFraction, hWhole, hFraction, List.append_nil,
        List.append_nil]
      exact readTime?_minutes hHours hMinutes
    · rw [if_neg (fun hBoth => hWhole hBoth.1), if_pos hFraction, hFraction, List.append_nil]
      exact readTime?_seconds hHours hMinutes hSeconds
  · rw [if_neg (fun hBoth => hFraction hBoth.2), if_neg hFraction]
    simp only [List.append_assoc, List.cons_append]
    exact readTime?_fraction hHours hMinutes hSeconds hMicros

/-- **Written offsets.** An offset is read as it was written, but offsets of less than a second are
read as none. -/
theorem readOffset?_offsetChars {offset : Int} (h : offset.natAbs < day) :
    readOffset? (offsetChars [':'] offset) =
      some (if offset.natAbs < second then 0 else offset) := by
  have hTime := readTime?_offsetChars h
  have hSpan := span_parts offset.natAbs
  rw [offsetChars_eq_cons]
  by_cases hSign : offset < 0
  · have hSize : -(offset.natAbs : Int) = offset := by omega
    rw [if_pos hSign, readOffset?]
    · simp only [hTime, Option.bind_eq_bind, Option.bind_some, isSpent, hSpan, Bool.not_true,
        Bool.false_eq_true, if_false, if_true, hSize]
    · decide
  · have hSize : (offset.natAbs : Int) = offset := by omega
    have hPlus : ('+' = '-') = False := by decide
    rw [if_neg hSign, readOffset?]
    · simp only [hTime, Option.bind_eq_bind, Option.bind_some, isSpent, hSpan, Bool.not_true,
        Bool.false_eq_true, if_false, hPlus, hSize]
    · decide

/-! ## Dates -/

/-- The text of a date has ten characters. -/
theorem Date.length_isoChars {date : Date} (hYear : date.year < 10000) (hMonth : date.month < 100)
    (hDay : date.day < 100) : date.isoChars.length = 10 := by
  unfold Date.isoChars
  simp only [List.length_append, List.length_cons, length_padded (by decide : 0 < 4) hYear,
    length_padded (by decide : 0 < 2) hMonth, length_padded (by decide : 0 < 2) hDay]

/-- The text of a date is read as that date. -/
theorem readDate?_isoChars {date : Date} (hYear : date.year < 10000) (hMonth : date.month < 100)
    (hDay : date.day < 100) : readDate? date.isoChars = some (.date date) := by
  obtain ⟨a, b, hMonthChars, ha, -⟩ := exists_padded_two hMonth
  obtain ⟨c, d, hDayChars, -⟩ := exists_padded_two hDay
  have hMonthValue := digits?_padded 2 date.month
  have hDayValue := digits?_padded 2 date.day
  rw [hMonthChars] at hMonthValue
  rw [hDayChars] at hDayValue
  have hNotWeek : a ≠ 'W' := by
    rintro rfl
    cases ha
  unfold Date.isoChars readDate?
  rw [List.append_assoc, take_padded_append (by decide : 0 < 4) hYear,
    drop_padded_append (by decide : 0 < 4) hYear, digits?_padded, hMonthChars, hDayChars]
  simp only [Option.bind_eq_bind, Option.bind_some, List.cons_append, List.nil_append]
  split
  · next hText => exact absurd (List.cons.inj (List.cons.inj hText).2).1 hNotWeek
  · next hText => cases hText
  · next rest _ hText =>
    obtain rfl := (List.cons.inj hText).2
    rw [readMonthDay?, hMonthValue, hDayValue]
    rfl
  · next hText => exact absurd rfl (hText _)

/-- The date part of a text that starts with a date in full is ten characters long. -/
theorem datePartLength_isoChars {date : Date} (hYear : date.year < 10000)
    (hMonth : date.month < 100) (hDay : date.day < 100) (rest : List Char) :
    datePartLength (date.isoChars ++ rest) = 10 := by
  obtain ⟨a, b, hMonthChars, ha, -⟩ := exists_padded_two hMonth
  have hYearLength : (padded 4 date.year).length = 4 := length_padded (by decide) hYear
  have hText : date.isoChars ++ rest =
      padded 4 date.year ++ '-' :: a :: b :: '-' :: (padded 2 date.day ++ rest) := by
    simp [Date.isoChars, hMonthChars]
  have hFour : (date.isoChars ++ rest)[4]? = some '-' := by
    rw [hText, List.getElem?_append_right (by omega), hYearLength]
    rfl
  have hFive : (date.isoChars ++ rest)[5]? = some a := by
    rw [hText, List.getElem?_append_right (by omega), hYearLength]
    rfl
  have hLength : ¬date.isoChars.length + rest.length = 7 := by
    rw [Date.length_isoChars hYear hMonth hDay]
    omega
  have hNotWeek : ¬a = 'W' := by
    rintro rfl
    cases ha
  unfold datePartLength
  simp [hFour, hFive, hLength, hNotWeek]

/-! ## Readings -/

namespace Wall

/-- The written form of the time of day of a reading. -/
def timeChars (wall : Wall) : List Char :=
  padded 2 wall.hour ++ ':' :: (padded 2 wall.minute ++ ':' :: (padded 2 wall.second ++
    (if wall.microsecond = 0 then [] else '.' :: padded 6 wall.microsecond)))

/-- The text of a reading is that of its date, a `T` and that of its time of day. -/
theorem isoChars_eq (wall : Wall) : wall.isoChars = wall.date.isoChars ++ 'T' :: wall.timeChars := by
  simp [isoChars, timeChars]

/-- The time of day of a reading, as it is written. -/
def timeReading (wall : Wall) : TimeReading :=
  ⟨wall.hour, wall.minute, wall.second, wall.microsecond⟩

/-- The text of a time of day is read as that time. -/
theorem readTime?_timeChars (wall : Wall) : readTime? wall.timeChars = some (wall.timeReading, []) := by
  have hHour : wall.hour < 100 := by
    unfold hour
    omega
  have hMinute : wall.minute < 100 := by
    unfold minute
    omega
  have hSecond : wall.second < 100 := by
    unfold second
    omega
  have hMicros : wall.microsecond < 1000000 := Nat.mod_lt _ (by decide)
  unfold timeChars timeReading
  by_cases hZero : wall.microsecond = 0
  · rw [if_pos hZero, List.append_nil, hZero]
    exact readTime?_seconds hHour hMinute hSecond
  · rw [if_neg hZero]
    exact readTime?_fraction hHour hMinute hSecond hMicros

/-- Nothing in the time of a reading starts an offset. -/
theorem isOffsetSign_timeChars {wall : Wall} {c : Char} (h : c ∈ wall.timeChars) :
    isOffsetSign c = false := by
  have hDigit : ∀ width n : Nat, c ∈ padded width n → isOffsetSign c = false := by
    intro width n hMem
    have := isDigit_of_isNumeral (isNumeral_padded width n) c hMem
    unfold isOffsetSign
    simp only [Bool.or_eq_false_iff, decide_eq_false_iff_not]
    refine ⟨⟨?_, ?_⟩, ?_⟩ <;> (rintro rfl; cases this)
  unfold timeChars at h
  simp only [List.mem_append, List.mem_cons] at h
  rcases h with h | rfl | h | rfl | h | h
  · exact hDigit 2 _ h
  · rfl
  · exact hDigit 2 _ h
  · rfl
  · exact hDigit 2 _ h
  · split at h
    · cases h
    · rcases List.mem_cons.1 h with rfl | h
      · rfl
      · exact hDigit 6 _ h

/-- The count of a reading by its day and its time of day. -/
theorem dayNumber_mul_add_span (wall : Wall) :
    wall.dayNumber * day + wall.timeReading.span = wall.count := by
  unfold timeReading TimeReading.span timeOfDay dayNumber hour minute second microsecond
  unfold day Time.hour Time.minute Time.second
  simp only
  omega

/-- The time of day of a reading is within the day. -/
theorem check_timeReading (wall : Wall) :
    wall.timeReading.check = .ok wall.timeReading.span := by
  have hHour : ¬24 ≤ wall.hour := by
    unfold hour
    omega
  have hMinute : ¬60 ≤ wall.minute := by
    unfold minute
    omega
  have hSecond : ¬60 ≤ wall.second := by
    unfold second
    omega
  unfold TimeReading.check timeReading
  simp only [if_neg hHour, if_neg hMinute, if_neg hSecond]

/-- The date of a reading is one of the calendar. -/
theorem isValid_date (wall : Wall) : wall.date.isValid = true :=
  Date.isValid_ofDayNumber (Nat.div_lt_of_lt_mul (Nat.mul_comm dayCount day ▸ wall.count_lt))

/-- The date of a reading has the number of its day. -/
theorem dayNumber_date (wall : Wall) : wall.date.dayNumber = wall.dayNumber :=
  Date.dayNumber_ofDayNumber wall.dayNumber

end Wall

/-- A date in the calendar names its day. -/
theorem DateReading.day_eq_ok {date : Date} (h : date.isValid = true) :
    (DateReading.date date).day = .ok date.dayNumber := by
  simp only [Date.isValid, Bool.and_eq_true, decide_eq_true_eq] at h
  obtain ⟨⟨⟨⟨⟨hYear, hYear'⟩, hMonth⟩, hMonth'⟩, hDay⟩, hDay'⟩ := h
  have hYears : ¬(date.year < 1 ∨ lastYear < date.year) := by omega
  have hMonths : ¬(date.month < 1 ∨ 12 < date.month) := by omega
  have hDays : ¬(date.day < 1 ∨ monthLength date.year date.month < date.day) := by omega
  simp only [DateReading.day, if_neg hYears, if_neg hMonths, if_neg hDays]

/-! ## Moments -/

namespace Moment

/-- The clock of a moment as far as its text tells: nothing, universal time for an offset of less
than a second, or the offset. -/
def writtenClock (moment : Moment) : Clock :=
  match moment.offset? with
  | none => .naive
  | some offset => if offset.natAbs < second then .universal else .fixed offset none

/-- The written form of the offset of a moment. -/
def offsetText (moment : Moment) : List Char :=
  match moment.offset? with
  | none => []
  | some offset => offsetChars [':'] offset

/-- The text of a moment is that of its reading with its offset at the end. -/
theorem isoChars_eq (moment : Moment) :
    moment.isoChars = moment.wall.date.isoChars ++
      'T' :: (moment.wall.timeChars ++ moment.offsetText) := by
  rw [isoChars, Wall.isoChars_eq, offsetText, List.append_assoc]
  rfl

/-- The offset of a moment is less than a day. -/
def IsProper (moment : Moment) : Prop :=
  ∀ offset ∈ moment.offset?, offset.natAbs < day

/-- The time and the offset of a moment are read. -/
theorem readTimePart?_timeChars {moment : Moment} (h : moment.IsProper) :
    ∃ offset, readTimePart? (moment.wall.timeChars ++ moment.offsetText) =
        some (moment.wall.timeReading, offset) ∧
      clockOfOffset offset = .ok moment.writtenClock := by
  have hSigns : ∀ c ∈ moment.wall.timeChars, (!isOffsetSign c) = true := by
    intro c hc
    rw [Wall.isOffsetSign_timeChars hc]
    rfl
  unfold readTimePart? offsetText writtenClock
  cases hOffset : moment.offset? with
  | none =>
    refine ⟨none, ?_, rfl⟩
    simp only [List.append_nil]
    rw [List.takeWhile_eq_self_iff.2 hSigns, List.dropWhile_eq_nil_iff.2 hSigns,
      Wall.readTime?_timeChars]
    rfl
  | some offset =>
    have hDay := h offset hOffset
    have hRead := readOffset?_offsetChars hDay
    have hSign : (!isOffsetSign (if offset < 0 then '-' else '+')) = false := by
      split <;> rfl
    refine ⟨some (if offset.natAbs < second then 0 else offset), ?_, ?_⟩
    · simp only
      rw [offsetChars_eq_cons] at hRead ⊢
      rw [List.takeWhile_append_of_pos hSigns, List.dropWhile_append_of_pos hSigns,
        List.takeWhile_cons_of_neg (by rw [hSign]; decide),
        List.dropWhile_cons_of_neg (by rw [hSign]; decide), List.append_nil,
        Wall.readTime?_timeChars]
      simp only [Option.bind_eq_bind, Option.bind_some, hRead]
    · by_cases hSmall : offset.natAbs < second
      · simp only [if_pos hSmall]
        rfl
      · have hNe : ¬offset = 0 := by
          rintro rfl
          exact hSmall (by decide)
        simp only [if_neg hSmall, clockOfOffset, if_neg hNe, if_pos hDay]

/-- The parts of the text of a moment are read. -/
theorem readParts_isoChars {moment : Moment} (h : moment.IsProper) :
    ∃ offset, readParts moment.isoChars =
        some (.date moment.wall.date, moment.wall.timeReading, offset) ∧
      clockOfOffset offset = .ok moment.writtenClock := by
  have hFields := moment.wall.isValid_date
  simp only [Date.isValid, Bool.and_eq_true, decide_eq_true_eq] at hFields
  obtain ⟨⟨⟨⟨⟨-, hYear⟩, hFirst⟩, hMonth⟩, -⟩, hDay⟩ := hFields
  have hYear : moment.wall.date.year < 10000 := by
    unfold lastYear at hYear
    omega
  have hDay : moment.wall.date.day < 100 := by
    have := (monthLength_bounds moment.wall.date.year hFirst hMonth).2
    omega
  have hMonth : moment.wall.date.month < 100 := by omega
  have hLength := Date.length_isoChars hYear hMonth hDay
  obtain ⟨offset, hTime, hClock⟩ := readTimePart?_timeChars h
  have hLong : ¬moment.isoChars.length < 7 := by
    rw [isoChars_eq, List.length_append, hLength]
    omega
  refine ⟨offset, ?_, hClock⟩
  unfold readParts
  rw [if_neg hLong, isoChars_eq]
  simp only [datePartLength_isoChars hYear hMonth hDay, List.take_left' hLength,
    List.drop_left' hLength, readDate?_isoChars hYear hMonth hDay, Option.bind_eq_bind,
    Option.bind_some, hTime]

/-- What is read for the text of a moment: the same reading on the clock as it was written. -/
theorem ofIsoChars_isoChars {moment : Moment} (h : moment.IsProper) :
    ofIsoChars moment.isoChars = .ok ⟨moment.wall, moment.writtenClock, .first⟩ := by
  obtain ⟨offset, hParts, hClock⟩ := readParts_isoChars h
  have hDay := DateReading.day_eq_ok moment.wall.isValid_date
  have hCheck := moment.wall.check_timeReading
  have hCount : Wall.ofCount? (moment.wall.date.dayNumber * day + moment.wall.timeReading.span : Nat) =
      some moment.wall := by
    rw [Wall.ofCount?_eq_some_iff, Wall.dayNumber_date, Wall.dayNumber_mul_add_span]
  unfold ofIsoChars
  rw [hParts]
  dsimp only
  rw [hClock, hDay, hCheck, ok_bind, ok_bind, ok_bind, hCount]

/-- A character that moments are written with: a digit or one of a few signs. -/
def IsIsoChar (c : Char) : Prop :=
  c.isDigit = true ∨ c ∈ ['-', 'T', ':', '.', '+']

/-- Padded numbers are written with characters of dates. -/
theorem isIsoChar_padded {width n : Nat} {c : Char} (h : c ∈ padded width n) : IsIsoChar c :=
  .inl (isDigit_of_isNumeral (isNumeral_padded width n) c h)

/-- Fractions are written with characters of dates. -/
theorem isIsoChar_fraction {micros : Nat} {c : Char}
    (h : c ∈ if micros = 0 then [] else '.' :: padded 6 micros) : IsIsoChar c := by
  split at h
  · cases h
  · rcases List.mem_cons.1 h with rfl | hDigit
    · exact .inr (by decide)
    · exact isIsoChar_padded hDigit

/-- Offsets are written with characters of dates. -/
theorem isIsoChar_offsetChars {offset : Int} {c : Char} (h : c ∈ offsetChars [':'] offset) :
    IsIsoChar c := by
  simp only [offsetChars, List.cons_append, List.append_assoc, List.mem_cons, List.mem_append,
    List.not_mem_nil, false_or] at h
  rcases h with rfl | hHours | rfl | hMinutes | hSeconds | hFraction
  · split <;> exact .inr (by decide)
  · exact isIsoChar_padded hHours
  · exact .inr (by decide)
  · exact isIsoChar_padded hMinutes
  · split at hSeconds
    · cases hSeconds
    · rcases List.mem_cons.1 hSeconds with rfl | hDigit
      · exact .inr (by decide)
      · exact isIsoChar_padded hDigit
  · exact isIsoChar_fraction hFraction

/-- Moments are written with digits and a few signs. -/
theorem isIsoChar_of_mem {moment : Moment} {c : Char} (h : c ∈ moment.isoChars) : IsIsoChar c := by
  simp only [isoChars_eq, Date.isoChars, Wall.timeChars, List.mem_append, List.mem_cons] at h
  rcases h with ((h | rfl | h) | rfl | h) | rfl | (h | rfl | h | rfl | h | hFraction) | hOffset
  case inr.inr.inl.inr.inr.inr.inr.inr => exact isIsoChar_fraction hFraction
  case inr.inr.inr =>
    unfold offsetText at hOffset
    split at hOffset
    · cases hOffset
    · exact isIsoChar_offsetChars hOffset
  all_goals first
    | exact isIsoChar_padded h
    | exact .inr (by decide)

/-- No moment is written with a `Z`. -/
theorem not_mem_isoChars (moment : Moment) : 'Z' ∉ moment.isoChars := by
  intro h
  rcases isIsoChar_of_mem h with hDigit | hSign
  · cases hDigit
  · exact absurd hSign (by decide)

/-- Spelling out the `Z` leaves the text of a moment as it is. -/
theorem spellUniversal_isoChars (moment : Moment) :
    spellUniversal moment.isoChars = moment.isoChars := by
  unfold spellUniversal
  rw [List.flatMap_congr (g := fun c => [c]) ?_, List.flatMap_singleton']
  intro c hc
  rw [if_neg]
  rintro rfl
  exact not_mem_isoChars moment hc

/-- **Texts of moments.** What is read for the text of a moment is the same reading, in the first
pass, on the clock as it was written. -/
theorem ofIso_isoChars {moment : Moment} (h : moment.IsProper) :
    ofIso moment.isoChars = .ok ⟨moment.wall, moment.writtenClock, .first⟩ := by
  rw [ofIso, spellUniversal_isoChars, ofIsoChars_isoChars h]

/-- What is left of a moment when its text is read and a naive moment is read in universal time. -/
def restored (moment : Moment) : Moment where
  wall := moment.wall
  clock :=
    match moment.offset? with
    | none => .universal
    | some offset => if offset.natAbs < second then .universal else .fixed offset none
  pass := .first

/-- What is written of a moment, read in universal time if it has no offset, is the restored moment.
-/
theorem orOnClock_written (moment : Moment) :
    (Moment.mk moment.wall moment.writtenClock .first).orOnClock .universal = moment.restored := by
  unfold writtenClock restored
  cases moment.offset? with
  | none => rfl
  | some offset =>
    simp only
    split <;> rfl

end Moment

end Crontab.Time
