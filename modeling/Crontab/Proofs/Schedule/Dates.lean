import Crontab.Proofs.Schedule.Horizon

/-!
# Schedules of dates

If every day of the week is listed, a listing stands for dates, and there is one if some listed month is
ever as long as some listed day.  Eight years are enough to meet it, so that the search gives up exactly
if there is none, as long as the eighth year is in the calendar.

* `Listing.HasDate` — a listed month that has a listed day in some year;
* `Schedule.fits_eq_false` — without a date nothing fits;
* `Listing.HasDate.exists_matches` — with a date some reading matches;
* `NextRunError.leavesCalendar`, `Schedule.nextAfter_eq_error` — the ways in which a search fails;
* `Listing.nextRun_exhausted_iff` — when a search gives up;
* `Listing.thirtyFirstOfFebruary_yearRange` — a search that starts in 9991.
-/

namespace Crontab

open Time

/-! ## Dates of a listing -/

namespace Listing

variable {listing : Listing} {zone : Zone}

/-- In some year a listed month has a listed day. -/
def HasDate (listing : Listing) : Prop :=
  ∃ year month day : Nat, (month : Int) ∈ listing.month ∧ (day : Int) ∈ listing.dayOfMonth ∧
    day ≤ monthLength year month

/-- What a listing in range has for a field is within the bounds of that field. -/
theorem bounds_of_mem (hRange : listing.InRange) (field : Field) {n : Nat}
    (h : (n : Int) ∈ listing.valuesOf field) : field.least ≤ n ∧ n ≤ field.greatest :=
  (Field.bounds_of_admits ((hRange field).2 n h)).2

/-- For every field some natural number is listed. -/
theorem exists_mem_valuesOf (hRange : listing.InRange) (field : Field) :
    ∃ n : Nat, (n : Int) ∈ listing.valuesOf field ∧ n ≤ field.greatest := by
  obtain ⟨n, hn⟩ := List.exists_mem_of_ne_nil _ (hRange field).1
  obtain ⟨hSign, -, hLe⟩ := Field.bounds_of_admits ((hRange field).2 n hn)
  refine ⟨n.toNat, ?_, hLe⟩
  rwa [Int.toNat_of_nonneg hSign]

/-- December has all days, so that it has the listed ones. -/
theorem hasDate_of_december (hRange : listing.InRange) (h : (12 : Int) ∈ listing.month) :
    listing.HasDate := by
  obtain ⟨day, hDay, hLe⟩ := exists_mem_valuesOf hRange .dayOfMonth
  exact ⟨1, 12, day, h, hDay, hLe⟩

/-- A date that is listed is met in the calendar, at any listed time. -/
theorem HasDate.exists_matches (h : listing.HasDate) (hRange : listing.InRange)
    (hWeek : listing.HasEveryWeekday) :
    ∃ wall : Wall, wall.count % Time.minute = 0 ∧ listing.Matches wall := by
  obtain ⟨year, month, day, hMonth, hDay, hLength⟩ := h
  obtain ⟨hour, hHour, hHourLe⟩ := exists_mem_valuesOf hRange .hour
  obtain ⟨minute, hMinute, hMinuteLe⟩ := exists_mem_valuesOf hRange .minute
  have hMonths : 1 ≤ month ∧ month ≤ 12 := bounds_of_mem hRange .month hMonth
  have hDays : 1 ≤ day ∧ day ≤ 31 := bounds_of_mem hRange .dayOfMonth hDay
  -- a leap year has every date that any year has
  have hValid : (Date.mk 2024 month day).isValid = true := by
    have hLeap := monthLength_le_of_isLeap year (show isLeap 2024 = true by decide) hMonths.2
    simp only [Date.isValid, Bool.and_eq_true, decide_eq_true_eq]
    exact ⟨⟨⟨⟨by decide, hMonths.1⟩, hMonths.2⟩, hDays.1⟩, hLength.trans hLeap⟩
  simp only [Field.greatest] at hHourLe hMinuteLe
  have hTime : Time.minute * (60 * hour + minute) < Time.day := by
    unfold Time.minute Time.day
    omega
  obtain ⟨wall, hDate, hSame⟩ := Wall.exists_onDate
    ⟨Time.minute * (60 * hour + minute), by unfold dayCount; omega⟩ hValid
  simp only [Nat.mod_eq_of_lt hTime] at hSame
  have hOwnHour : wall.hour = hour := by
    unfold Wall.hour Time.hour
    unfold Time.minute Time.day at hSame
    omega
  have hOwnMinute : wall.minute = minute := by
    unfold Wall.minute Time.minute
    unfold Time.minute Time.day at hSame
    omega
  refine ⟨wall, ?_, ?_⟩
  · unfold Time.minute Time.day at hSame
    unfold Time.minute
    omega
  · exact
      { minute := by rwa [hOwnMinute]
        hour := by rwa [hOwnHour]
        dayOfMonth := by rwa [hDate]
        month := by rwa [hDate]
        dayOfWeek := hWeek _ (Nat.mod_lt _ (by decide)) }

end Listing

/-! ## Searches without a date -/

/-- The search fails because it leaves the calendar. -/
def NextRunError.leavesCalendar : NextRunError → Bool
  | .outOfCalendar | .yearRange => true
  | .exhausted | .listing _ _ => false

namespace Schedule

variable {schedule : Schedule} {listing : Listing} {zone : Zone} {reference : Wall} {start : Nat}

/-- If a listing has no date, nothing fits its schedule. -/
theorem fits_eq_false (hRange : listing.InRange)
    (hValues : ∀ field, schedule.valuesOf field = (listing.valuesOf field).map Int.toNat)
    (h : ¬listing.HasDate) (minute : Nat) : schedule.fits minute = false := by
  have hContains := contains_valuesOf_iff hRange hValues
  rw [Bool.eq_false_iff]
  intro hFits
  simp only [fits, fitsDay, Bool.and_eq_true] at hFits
  obtain ⟨⟨⟨hMonth, hDay⟩, -⟩, -⟩ := hFits
  obtain ⟨-, -, -, -, hLength, -⟩ := Date.ofDayNumber_spec (minute / minutesPerDay)
  exact h ⟨_, _, _, (hContains .month _).1 hMonth, (hContains .dayOfMonth _).1 hDay, hLength⟩

/-- A search in a schedule that nothing fits fails at once. -/
theorem nextAfter_of_not_fits (h : ∀ minute, schedule.fits minute = false)
    (hStart : start < minuteLimit) :
    schedule.nextAfter zone reference start = .error (schedule.searchFailure start) := by
  unfold nextAfter
  rw [if_neg (Nat.not_le.2 hStart)]
  split
  · rfl
  · next fit hFit =>
    have hFits := (firstFit?_spec hFit).1
    rw [h fit] at hFits
    cases hFits

/-- A search fails by giving up or by leaving the calendar. -/
theorem searchFailure_cases (schedule : Schedule) (start : Nat) :
    schedule.searchFailure start = .exhausted ∨
      (schedule.searchFailure start).leavesCalendar = true := by
  unfold searchFailure
  split
  · exact .inl rfl
  · split
    · exact .inr rfl
    · exact .inr rfl

/-- A minute that was found fails to be a run only outside of the calendar. -/
theorem leavesCalendar_of_runAt {minute : Nat} {e : NextRunError}
    (h : runAt zone reference minute = .error e) : e.leavesCalendar = true := by
  unfold runAt at h
  repeat' split at h
  all_goals cases h
  all_goals rfl

/-- A search fails by giving up or by leaving the calendar. -/
theorem nextAfter_eq_error {e : NextRunError}
    (h : schedule.nextAfter zone reference start = .error e) :
    e = .exhausted ∨ e.leavesCalendar = true := by
  fun_induction nextAfter schedule zone reference start with
  | case1 start hLimit =>
    cases h
    exact .inr rfl
  | case2 start hLimit hFit =>
    cases h
    exact schedule.searchFailure_cases start
  | case3 start hLimit fit hFit e hRun =>
    cases h
    exact .inr (leavesCalendar_of_runAt hRun)
  | case4 start hLimit fit hFit found hRun => cases h
  | case5 start hLimit fit hFit hRun ih => exact ih h

end Schedule

namespace Listing

variable {listing : Listing} {zone : Zone} {after : Moment} {reference reading : Wall}

/-- Before the last years of the calendar a search has a minute to start with. -/
theorem exists_startMinute (h : reading.date.year ≤ 9990) :
    ∃ start, startMinute reading = .ok start ∧ start < minuteLimit := by
  have hDays : reading.dayNumber < daysBeforeYear 9991 := by
    have hOwn := (yearOfDay_bounds reading.dayNumber).2
    have hYear : yearOfDay reading.dayNumber ≤ 9990 := h
    have hMono := daysBeforeYear_mono (Nat.succ_le_succ hYear)
    exact Nat.lt_of_lt_of_le hOwn hMono
  have hMinutes : reading.minuteCount < daysBeforeYear 9991 * minutesPerDay := by
    unfold Wall.dayNumber Time.day at hDays
    unfold Wall.minuteCount Time.minute minutesPerDay
    omega
  have hEnd : daysBeforeYear 9991 + 1 < dayCount := by decide
  have hKept := reading.keptSecond_bounds.2
  unfold minutesPerDay at hMinutes
  have hInside : ¬dayCount * 86400 ≤ reading.keptSecond := by omega
  refine ⟨reading.keptSecond / 60 + 1, if_neg hInside, ?_⟩
  unfold minuteLimit minutesPerDay
  omega

/-- Without a date the search for a next run fails at once. -/
theorem nextRun_of_not_hasDate {schedule : Schedule} {start : Nat} (hRange : listing.InRange)
    (hNone : ¬listing.HasDate) (hReference : after.utc? = .ok reference)
    (hReading : zone.wallAt? reference = some reading) (hSchedule : listing.schedule = .ok schedule)
    (hStart : startMinute reading = .ok start) (hLimit : start < minuteLimit) :
    listing.nextRun zone after = .error (schedule.searchFailure start) := by
  obtain ⟨own, hOwn, hValues⟩ := exists_schedule hRange
  obtain rfl : own = schedule := Except.ok.inj (hOwn.symm.trans hSchedule)
  have hFits := Schedule.fits_eq_false hRange hValues hNone
  rw [nextRun_eq_map hReference hReading hSchedule hStart,
    Schedule.nextAfter_of_not_fits hFits hLimit]
  rfl

/-- A search that gives up has no date to look for. -/
theorem not_hasDate_of_exhausted (hRange : listing.InRange) (hWeek : listing.HasEveryWeekday)
    (h : listing.nextRun zone after = .error .exhausted) : ¬listing.HasDate := by
  intro hDate
  obtain ⟨wall, hWhole, hMatches⟩ := hDate.exists_matches hRange hWeek
  obtain ⟨_, _, _, _, -, -, hSchedule, hStart, hSearch⟩ := exists_nextAfter_of_exhausted h
  obtain ⟨stop, hStop⟩ := gaveUp_of_nextAfter hRange hSchedule hStart hSearch
  exact hStop.not_matches hWeek hWhole hMatches

/-- **When a search gives up.** For a listing of values of the fields with every day of the week, and a
reference in a year of the zone's clocks up to 9990, the search starts with the minute after the
reference, or with the one after that if the seconds of the reference are rounded up.  If that minute
is in a year up to 9990 as well, the search gives up exactly if no listed month ever has a listed day.
If it is not, a search without a date runs out of years.  With a date the search ends with a run, or it
leaves the calendar. -/
theorem nextRun_exhausted_iff (hRange : listing.InRange) (hWeek : listing.HasEveryWeekday)
    (hReference : (after.orOnClock .universal).instant? = some (reference.count : Int))
    (hReading : zone.wallAt? reference = some reading) (hYear : reading.date.year ≤ 9990) :
    ∃ start, startMinute reading = .ok start ∧
      (start = reading.minuteCount + 1 ∨
        ¬reading.KeepsMinute ∧ start = reading.minuteCount + 2) ∧
      (Schedule.yearOfMinute start ≤ 9990 →
        (listing.nextRun zone after = .error .exhausted ↔ ¬listing.HasDate)) ∧
      (9990 < Schedule.yearOfMinute start → ¬listing.HasDate →
        listing.nextRun zone after = .error .yearRange) ∧
      (listing.HasDate → (∃ run, listing.nextRun zone after = .ok run) ∨
        ∃ error, listing.nextRun zone after = .error error ∧ error.leavesCalendar = true) := by
  obtain ⟨schedule, hSchedule, hValues⟩ := exists_schedule hRange
  obtain ⟨start, hStart, hLimit⟩ := exists_startMinute hYear
  have hUtc := Moment.utc?_eq_ok_iff.2 hReference
  have hRun := nextRun_eq_map hUtc hReading hSchedule hStart
  have hFailure : ¬listing.HasDate →
      listing.nextRun zone after = .error (schedule.searchFailure start) := by
    intro hNone
    exact nextRun_of_not_hasDate hRange hNone hUtc hReading hSchedule hStart hLimit
  refine ⟨start, hStart, startMinute_bounds hStart, fun hEarly => ⟨?_, fun hNone => ?_⟩,
    fun hLate hNone => ?_, fun hDate => ?_⟩
  · exact not_hasDate_of_exhausted hRange hWeek
  · have hInside : Schedule.yearOfMinute start + Schedule.yearsAhead < lastYear := by
      unfold Schedule.yearsAhead lastYear
      omega
    rw [hFailure hNone, Schedule.searchFailure, if_pos hInside]
  · have hOutside : ¬Schedule.yearOfMinute start + Schedule.yearsAhead < lastYear := by
      unfold Schedule.yearsAhead lastYear
      omega
    -- a listed December would be a date, as it has all days that can be listed
    have hDecember : ¬schedule.month.contains 12 = true := by
      intro hListed
      exact hNone (hasDate_of_december hRange
        ((Schedule.contains_valuesOf_iff hRange hValues .month 12).1 hListed))
    rw [hFailure hNone, Schedule.searchFailure, if_neg hOutside, if_neg hDecember]
  · cases hSearch : schedule.nextAfter zone reference start with
    | ok found =>
      left
      exact ⟨.universal found, by rw [hRun, hSearch]; rfl⟩
    | error e =>
      have hError : listing.nextRun zone after = .error e := by
        rw [hRun, hSearch]
        rfl
      rcases Schedule.nextAfter_eq_error hSearch with rfl | hLeaves
      · exact absurd hDate (not_hasDate_of_exhausted hRange hWeek hError)
      · right
        exact ⟨e, hError, hLeaves⟩

/-- Midnight of every 31 February. -/
def thirtyFirstOfFebruary : Schedule where
  minute := [0]
  hour := [0]
  dayOfMonth := [31]
  month := [2]
  dayOfWeek := List.range 7

/-- The beginning of 2025. -/
def newYear : Wall :=
  .onDate ⟨2025, 1, 1⟩ 0 (by decide)

theorem inRange_thirtyFirstOfFebruary : thirtyFirstOfFebruary.listing.InRange := by
  intro field
  cases field <;> decide

/-- The thirty-first of February may be any day of the week. -/
theorem hasEveryWeekday_thirtyFirstOfFebruary :
    thirtyFirstOfFebruary.listing.HasEveryWeekday := by
  unfold HasEveryWeekday
  decide

/-- No February has 31 days. -/
theorem not_hasDate_thirtyFirstOfFebruary : ¬thirtyFirstOfFebruary.listing.HasDate := by
  rintro ⟨year, month, day, hMonth, hDay, hLength⟩
  obtain rfl : month = 2 := Int.ofNat_inj.1 (List.mem_singleton.1 hMonth)
  obtain rfl : day = 31 := Int.ofNat_inj.1 (List.mem_singleton.1 hDay)
  have hLeap := monthLength_le_of_isLeap year (show isLeap 2024 = true by decide)
    (show 2 ≤ 12 by decide)
  have hShort : monthLength 2024 2 = 29 := by decide
  omega

/-- At the beginning of 2025 the search for a 31 February gives up. -/
theorem nextRun_exhausted_iff_thirtyFirstOfFebruary :
    thirtyFirstOfFebruary.listing.InRange ∧ thirtyFirstOfFebruary.listing.HasEveryWeekday ∧
      ((Moment.universal newYear).orOnClock .universal).instant? = some (newYear.count : Int) ∧
      Atlas.universal.wallAt? newYear = some newYear ∧ newYear.date.year ≤ 9990 ∧
      thirtyFirstOfFebruary.listing.nextRun Atlas.universal (.universal newYear) =
        .error .exhausted := by
  have hReference : ((Moment.universal newYear).orOnClock .universal).instant? =
      some (newYear.count : Int) := by decide
  have hReading : Atlas.universal.wallAt? newYear = some newYear := by decide +kernel
  have hYear : newYear.date.year ≤ 9990 := by decide
  obtain ⟨start, hStart, -, hExact, -⟩ := nextRun_exhausted_iff inRange_thirtyFirstOfFebruary
    hasEveryWeekday_thirtyFirstOfFebruary hReference hReading hYear
  have hOwn : startMinute newYear = .ok (newYear.minuteCount + 1) := by decide +kernel
  obtain rfl := Except.ok.inj (hStart.symm.trans hOwn)
  exact ⟨inRange_thirtyFirstOfFebruary, hasEveryWeekday_thirtyFirstOfFebruary, hReference, hReading,
    hYear, (hExact (by decide +kernel)).2 not_hasDate_thirtyFirstOfFebruary⟩

/-- The last minute of 9990. -/
def lastMinuteOf9990 : Wall :=
  .onDate ⟨9990, 12, 31⟩ (Wall.timeOfDay 23 59 0 0) (by decide)

/-- **The last minute of 9990.** A search after it starts in 9991, so that eight years later there is
no year left for it to give up in, and it runs out of years instead. -/
theorem thirtyFirstOfFebruary_yearRange :
    Schedule.parse "0 0 31 2 *" = .ok thirtyFirstOfFebruary ∧
      thirtyFirstOfFebruary.listing.InRange ∧ thirtyFirstOfFebruary.listing.HasEveryWeekday ∧
      ¬thirtyFirstOfFebruary.listing.HasDate ∧
      Atlas.universal.wallAt? lastMinuteOf9990 = some lastMinuteOf9990 ∧
      lastMinuteOf9990.date.year = 9990 ∧
      thirtyFirstOfFebruary.listing.nextRun Atlas.universal (.universal lastMinuteOf9990) =
        .error .yearRange := by
  have hReading : Atlas.universal.wallAt? lastMinuteOf9990 = some lastMinuteOf9990 := by
    decide +kernel
  have hStart : startMinute lastMinuteOf9990 = .ok (lastMinuteOf9990.minuteCount + 1) := by
    decide +kernel
  have hFailure : thirtyFirstOfFebruary.searchFailure (lastMinuteOf9990.minuteCount + 1) =
      .yearRange := by
    decide +kernel
  refine ⟨by decide +kernel, inRange_thirtyFirstOfFebruary, hasEveryWeekday_thirtyFirstOfFebruary,
    not_hasDate_thirtyFirstOfFebruary, hReading, by decide +kernel, ?_⟩
  rw [nextRun_of_not_hasDate inRange_thirtyFirstOfFebruary not_hasDate_thirtyFirstOfFebruary
    (show (Moment.universal lastMinuteOf9990).utc? = .ok lastMinuteOf9990 by decide +kernel)
    hReading (show thirtyFirstOfFebruary.listing.schedule = .ok thirtyFirstOfFebruary by decide)
    hStart (by decide +kernel), hFailure]

end Listing

end Crontab
