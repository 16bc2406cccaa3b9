import Crontab.Proofs.Schedule.NextRun

/-!
# Searches that give up

A search gives up when it would have to go beyond the eighth year after the one it started in.
Eight years are enough for every date, leap days included, but not for every date on every day of the
week.

* `Schedule.nextAfter_eq_exhausted` — how a search gives up;
* `Listing.GaveUp`, `Listing.nextRun_gaveUp` — what a search that gave up has ruled out; if every day
  of the week is listed, that is the whole calendar;
* `Listing.newYearSunday_lost` — a Sunday on which a year begins, eleven years after the one before.
-/

namespace Crontab

open Time

/-! ## The search -/

namespace Schedule

variable {schedule : Schedule} {zone : Zone} {reference : Wall}

/-- A minute that was found is not reported as a search that gave up. -/
theorem runAt_ne_exhausted (zone : Zone) (reference : Wall) (minute : Nat) :
    runAt zone reference minute ≠ .error .exhausted := by
  unfold runAt
  repeat' split
  all_goals nofun

/-- A search gives up only if eight years later the calendar has not ended. -/
theorem searchFailure_eq_exhausted {start : Nat} (h : schedule.searchFailure start = .exhausted) :
    yearOfMinute start + yearsAhead < lastYear := by
  unfold searchFailure at h
  split at h
  · assumption
  · split at h <;> cases h

/-- **Giving up.** A search gives up at a minute, behind which nothing fits for eight years, and what
fits before that minute does not count as a run. -/
theorem nextAfter_eq_exhausted {start : Nat}
    (h : schedule.nextAfter zone reference start = .error .exhausted) :
    ∃ stop, start ≤ stop ∧ stop < minuteLimit ∧ yearOfMinute stop + yearsAhead < lastYear ∧
      (∀ minute, start ≤ minute → minute < stop → schedule.fits minute = true →
        runAt zone reference minute = .ok none) ∧
      ∀ minute, stop ≤ minute → minute / minutesPerDay < horizon stop →
        schedule.fits minute = false := by
  fun_induction nextAfter schedule zone reference start with
  | case1 start hLimit => cases h
  | case2 start hLimit hFit =>
    exact ⟨start, Nat.le_refl start, Nat.not_le.1 hLimit,
      searchFailure_eq_exhausted (Except.error.inj h),
      fun minute hLow hHigh => absurd hHigh (Nat.not_lt.2 hLow),
      fun minute hLow hHigh => firstFit?_eq_none hFit hLow hHigh⟩
  | case3 start hLimit fit hFit e hRun =>
    rw [Except.error.inj h] at hRun
    exact absurd hRun (runAt_ne_exhausted zone reference fit)
  | case4 start hLimit fit hFit found hRun => cases h
  | case5 start hLimit fit hFit hRun ih =>
    obtain ⟨stop, hStart, hLimit, hYear, hPassed, hNothing⟩ := ih h
    have hBefore := (firstFit?_spec hFit).2
    have hLe := le_of_firstFit? hFit
    refine ⟨stop, by omega, hLimit, hYear, fun minute hLow hHigh hFits => ?_, hNothing⟩
    rcases Nat.lt_trichotomy minute fit with hLt | rfl | hGt
    · rw [hBefore minute hLow hLt] at hFits
      cases hFits
    · exact hRun
    · exact hPassed minute hGt hHigh hFits

/-- The year of a minute is that of the reading it starts with. -/
theorem yearOfMinute_eq {minute : Nat} {wall : Wall} (h : wall.count = Time.minute * minute) :
    yearOfMinute minute = wall.date.year := by
  rw [yearOfMinute, dayOfMinute_eq h]
  rfl

/-- The days searched are those of the year of the start and of the eight years after it. -/
theorem lt_horizon_iff {start day : Nat} (h : yearOfMinute start + yearsAhead < lastYear) :
    day < horizon start ↔ yearOfDay day ≤ yearOfMinute start + yearsAhead := by
  obtain ⟨hLow, hHigh⟩ := yearOfDay_bounds day
  have hEnd : daysBeforeYear (yearOfMinute start + yearsAhead + 1) ≤ dayCount :=
    daysBeforeYear_mono (show yearOfMinute start + yearsAhead + 1 ≤ lastYear + 1 by omega)
  rw [horizon, Nat.min_eq_right hEnd]
  constructor
  · intro hDay
    by_contra hNot
    have := daysBeforeYear_mono (Nat.lt_of_not_le hNot)
    rw [Nat.succ_eq_add_one] at this
    omega
  · intro hYear
    have := daysBeforeYear_mono (Nat.succ_le_succ hYear)
    rw [Nat.succ_eq_add_one, Nat.succ_eq_add_one] at this
    omega

end Schedule

/-! ## Dates in other years -/

/-- Every date comes again within eight years. -/
theorem Time.Date.exists_isValid_within {date : Date} (h : date.isValid = true) {year : Nat}
    (hYear : year + 8 ≤ lastYear) :
    ∃ later, year < later ∧ later ≤ year + 8 ∧ (Date.mk later date.month date.day).isValid = true := by
  simp only [isValid, Bool.and_eq_true, decide_eq_true_eq] at h
  obtain ⟨⟨⟨⟨⟨-, -⟩, hMonth⟩, hMonth'⟩, hDay⟩, hDay'⟩ := h
  obtain ⟨leap, hLow, hHigh, hLeap⟩ := exists_isLeap_within year
  have hLength := monthLength_le_of_isLeap date.year hLeap hMonth'
  refine ⟨leap, hLow, hHigh, ?_⟩
  simp only [isValid, Bool.and_eq_true, decide_eq_true_eq]
  exact ⟨⟨⟨⟨⟨by omega, by omega⟩, hMonth⟩, hMonth'⟩, hDay⟩, hDay'.trans hLength⟩

/-- Every minute of the calendar begins with a reading. -/
theorem Time.Wall.exists_ofMinute {minute : Nat} (h : minute < minuteLimit) :
    ∃ wall : Wall, wall.count = Time.minute * minute := by
  refine ⟨⟨Time.minute * minute, ?_⟩, rfl⟩
  unfold minuteLimit minutesPerDay at h
  unfold Time.minute day
  omega

/-- Every date has a reading at the time of day of another reading. -/
theorem Time.Wall.exists_onDate (wall : Wall) {date : Date} (h : date.isValid = true) :
    ∃ other : Wall, other.date = date ∧ other.count % day = wall.count % day := by
  have hDate := Date.ofDayNumber_dayNumber h
  have hYear : yearOfDay date.dayNumber ≤ lastYear := by
    simp only [Date.isValid, Bool.and_eq_true, decide_eq_true_eq] at h
    have hOwn := (Date.ofDayNumber_spec date.dayNumber).1
    rw [hDate] at hOwn
    omega
  have hDay : date.dayNumber < dayCount :=
    Nat.lt_of_lt_of_le (yearOfDay_bounds date.dayNumber).2
      (daysBeforeYear_mono (Nat.succ_le_succ hYear))
  refine ⟨⟨date.dayNumber * day + wall.count % day, ?_⟩, ?_, ?_⟩
  · unfold day
    omega
  · have hNumber : (date.dayNumber * day + wall.count % day) / day = date.dayNumber := by
      unfold day
      omega
    unfold Wall.date Wall.dayNumber
    simp only [hNumber, hDate]
  · simp only [day]
    omega

/-- The hour and the minute of a reading come with the time of the day. -/
theorem Time.Wall.time_eq {wall other : Wall} (h : other.count % day = wall.count % day) :
    other.hour = wall.hour ∧ other.minute = wall.minute := by
  unfold day at h
  unfold Wall.hour Wall.minute Time.hour Time.minute
  omega

namespace Listing

variable {listing : Listing} {zone : Zone}

/-- Every day of the week is listed. -/
def HasEveryWeekday (listing : Listing) : Prop :=
  ∀ number < 7, ((number : Nat) : Int) ∈ listing.dayOfWeek

/-- If every day of the week is listed, a reading that matches has one in the next eight years. -/
theorem Matches.exists_within {wall : Wall} (h : listing.Matches wall)
    (hWeek : listing.HasEveryWeekday) {year : Nat} (hYear : year + 8 ≤ lastYear) :
    ∃ later : Wall, year < later.date.year ∧ later.date.year ≤ year + 8 ∧
      later.count % day = wall.count % day ∧ listing.Matches later := by
  have hValid : wall.date.isValid = true := by
    have hCount := wall.count_lt
    refine Date.isValid_ofDayNumber ?_
    unfold Wall.dayNumber
    unfold day at *
    omega
  -- the same day of the same month, in a leap year if need be
  obtain ⟨own, hLow, hHigh, hOwn⟩ := Date.exists_isValid_within hValid hYear
  obtain ⟨later, hDate, hTime⟩ := wall.exists_onDate hOwn
  obtain ⟨hHour, hMinute⟩ := Time.Wall.time_eq hTime
  rw [← hDate] at hOwn
  refine ⟨later, by rw [hDate]; exact hLow, by rw [hDate]; exact hHigh, hTime, ?_⟩
  exact
    { minute := by rw [hMinute]; exact h.minute
      hour := by rw [hHour]; exact h.hour
      dayOfMonth := by rw [hDate]; exact h.dayOfMonth
      month := by rw [hDate]; exact h.month
      dayOfWeek := hWeek _ (Nat.mod_lt _ (by decide)) }

/-! ## The next run -/

/-- A search for a run after a reference gave up at a whole minute on the clocks of a zone.  What
matches before that minute has no first pass after the reference, and nothing matches from there on
up to the end of the eighth year. -/
structure GaveUp (listing : Listing) (zone : Zone) (reference reading stop : Wall) : Prop where
  whole : stop.count % Time.minute = 0
  behind : reading.keptSecond / 60 < stop.minuteCount
  inCalendar : stop.date.year + Schedule.yearsAhead < lastYear
  passed : ∀ wall, wall.count % Time.minute = 0 → listing.Matches wall →
    reading.keptSecond / 60 < wall.minuteCount → wall.count < stop.count →
      ∀ first, zone.utcOf? .first wall = some first → zone.wallAt? first = some wall →
        first.count ≤ reference.count
  nothing : ∀ wall, wall.count % Time.minute = 0 → listing.Matches wall → stop.count ≤ wall.count →
    stop.date.year + Schedule.yearsAhead < wall.date.year

/-- If every day of the week is listed, a search gives up only if nothing in the calendar matches. -/
theorem GaveUp.not_matches {reference reading stop : Wall}
    (h : listing.GaveUp zone reference reading stop) (hWeek : listing.HasEveryWeekday) {wall : Wall}
    (hWhole : wall.count % Time.minute = 0) : ¬listing.Matches wall := by
  intro hMatches
  obtain ⟨later, hAfter, hWithin, hTime, hLater⟩ :=
    hMatches.exists_within hWeek (Nat.le_of_lt h.inCalendar)
  have hLaterWhole : later.count % Time.minute = 0 := by
    unfold Time.minute at *
    unfold day at hTime
    omega
  have hBehind : stop.count ≤ later.count := by
    have hDays : stop.dayNumber < later.dayNumber := by
      have hStop := (yearOfDay_bounds stop.dayNumber).2
      have hOwn := (yearOfDay_bounds later.dayNumber).1
      have hYears : daysBeforeYear (yearOfDay stop.dayNumber + 1) ≤
          daysBeforeYear (yearOfDay later.dayNumber) := daysBeforeYear_mono hAfter
      omega
    unfold Wall.dayNumber day at hDays
    omega
  have := h.nothing later hLaterWhole hLater hBehind
  unfold Schedule.yearsAhead at this
  omega

/-- What went before if the search for a run gives up. -/
theorem exists_nextAfter_of_exhausted {after : Moment}
    (h : listing.nextRun zone after = .error .exhausted) :
    ∃ reference reading schedule start, after.utc? = .ok reference ∧
      zone.wallAt? reference = some reading ∧ listing.schedule = .ok schedule ∧
      startMinute reading = .ok start ∧
      schedule.nextAfter zone reference start = .error .exhausted := by
  rcases listing.nextRun_cases zone after with ⟨cause, hCause, hError⟩ |
    ⟨reference, reading, schedule, start, hReference, hReading, hSchedule, hStart, hSearch⟩
  · exact absurd (Except.error.inj (hError.symm.trans h)) hCause
  · refine ⟨reference, reading, schedule, start, hReference, hReading, hSchedule, hStart, ?_⟩
    rw [hSearch] at h
    cases hFound : schedule.nextAfter zone reference start with
    | error cause =>
      rw [hFound] at h
      exact congrArg Except.error (Except.error.inj h)
    | ok found =>
      rw [hFound] at h
      cases h

/-- A search that is exhausted gave up at some minute. -/
theorem gaveUp_of_nextAfter {schedule : Schedule} {reference reading : Wall} {start : Nat}
    (hRange : listing.InRange) (hSchedule : listing.schedule = .ok schedule)
    (hStart : startMinute reading = .ok start)
    (h : schedule.nextAfter zone reference start = .error .exhausted) :
    ∃ stop, listing.GaveUp zone reference reading stop := by
  obtain ⟨own, hOwn, hValues⟩ := exists_schedule hRange
  obtain rfl : own = schedule := Except.ok.inj (hOwn.symm.trans hSchedule)
  -- the minute in which the search gave up, with nothing that fits from there on up to the horizon
  obtain ⟨minute, hLow, hLimit, hYear, hPassed, hNothing⟩ := Schedule.nextAfter_eq_exhausted h
  have hKept := startMinute_eq_ok hStart
  obtain ⟨stop, hStop⟩ := Time.Wall.exists_ofMinute hLimit
  have hStopYear := Schedule.yearOfMinute_eq hStop
  have hFits : ∀ wall : Wall, wall.count % Time.minute = 0 → listing.Matches wall →
      own.fits wall.minuteCount = true := fun wall hWhole hMatches =>
    (Schedule.fits_iff_matches hRange hValues (Wall.count_eq_of_whole hWhole)).2 hMatches
  refine ⟨stop, ?_⟩
  exact
    { whole := by
        rw [hStop]
        exact Nat.mul_mod_right Time.minute minute
      behind := by
        rw [Wall.minuteCount, hStop, Nat.mul_div_cancel_left minute (show 0 < Time.minute by decide)]
        omega
      inCalendar := by rwa [← hStopYear]
      passed := by
        intro wall hWhole hMatches hBehind hBefore first hFirst hShown
        have hCount := Wall.count_eq_of_whole hWhole
        rw [hCount, hStop] at hBefore
        have hNone := hPassed wall.minuteCount (by omega) (Nat.lt_of_mul_lt_mul_left hBefore)
          (hFits wall hWhole hMatches)
        exact Schedule.count_le_of_runAt_eq_none hNone (Wall.ofMinute?_eq_some_iff.2 hCount) hFirst
          hShown
      nothing := by
        intro wall hWhole hMatches hBehind
        rw [← hStopYear]
        by_contra hNot
        have hCount := Wall.count_eq_of_whole hWhole
        rw [hCount, hStop] at hBehind
        have hDay : wall.minuteCount / minutesPerDay < Schedule.horizon minute := by
          rw [dayOfMinute_eq hCount, Schedule.lt_horizon_iff hYear]
          exact Nat.not_lt.1 hNot
        have hNone := hNothing wall.minuteCount
          (Nat.le_of_mul_le_mul_left hBehind (by decide)) hDay
        rw [hFits wall hWhole hMatches] at hNone
        cases hNone }

/-- **Searches that give up.** If the search for the next run of a listing of values of the fields
gives up, there is a minute from which on nothing matches for eight years, and what matches before it
has no first pass after the reference.  If every day of the week is listed, no whole minute of the
calendar matches. -/
theorem nextRun_gaveUp (hRange : listing.InRange) {after : Moment}
    (h : listing.nextRun zone after = .error .exhausted) :
    ∃ reference reading stop : Wall,
      (after.orOnClock .universal).instant? = some (reference.count : Int) ∧
      zone.wallAt? reference = some reading ∧ listing.GaveUp zone reference reading stop ∧
      (listing.HasEveryWeekday →
        ∀ wall : Wall, wall.count % Time.minute = 0 → ¬listing.Matches wall) := by
  obtain ⟨reference, reading, schedule, start, hReference, hReading, hSchedule, hStart, hSearch⟩ :=
    exists_nextAfter_of_exhausted h
  obtain ⟨stop, hStop⟩ := gaveUp_of_nextAfter hRange hSchedule hStart hSearch
  exact ⟨reference, reading, stop, Moment.utc?_eq_ok_iff.1 hReference, hReading, hStop,
    fun hWeek _ hWhole => hStop.not_matches hWeek hWhole⟩

/-- Midnight of every Sunday on which a year begins. -/
def newYearSunday : Schedule where
  minute := [0]
  hour := [0]
  dayOfMonth := [1]
  month := [1]
  dayOfWeek := [0]

/-- The second of January 2023, a Monday. -/
def dayAfterNewYearSunday : Wall :=
  .onDate ⟨2023, 1, 2⟩ 0 (by decide)

/-- The first of January 2034, a Sunday. -/
def nextNewYearSunday : Wall :=
  .onDate ⟨2034, 1, 1⟩ 0 (by decide)

theorem inRange_newYearSunday : newYearSunday.listing.InRange := by
  intro field
  cases field <;> decide

/-- In 2023 the search for a year that begins on a Sunday gives up. -/
theorem nextRun_newYearSunday :
    newYearSunday.listing.nextRun Atlas.universal (.universal dayAfterNewYearSunday) =
      .error .exhausted := by
  decide +kernel

/-- The search of 2023 tells where it gave up, and does not rule out a match later on. -/
theorem nextRun_gaveUp_newYearSunday :
    newYearSunday.listing.InRange ∧
      newYearSunday.listing.nextRun Atlas.universal (.universal dayAfterNewYearSunday) =
        .error .exhausted ∧
      ∃ reference reading stop : Wall,
        ((Moment.universal dayAfterNewYearSunday).orOnClock .universal).instant? =
          some (reference.count : Int) ∧
        Atlas.universal.wallAt? reference = some reading ∧
        newYearSunday.listing.GaveUp Atlas.universal reference reading stop ∧
        (newYearSunday.listing.HasEveryWeekday →
          ∀ wall : Wall, wall.count % Time.minute = 0 → ¬newYearSunday.listing.Matches wall) :=
  ⟨inRange_newYearSunday, nextRun_newYearSunday,
    nextRun_gaveUp inRange_newYearSunday nextRun_newYearSunday⟩

/-- **A run that is not found.** The search from the beginning of 2023 on gives up, but eleven years
after the last one there is a year again that begins on a Sunday. -/
theorem newYearSunday_lost :
    Schedule.parse "0 0 1 1 0" = .ok newYearSunday ∧
      newYearSunday.listing.nextRun Atlas.universal (.universal dayAfterNewYearSunday) =
        .error .exhausted ∧
      dayAfterNewYearSunday.count < nextNewYearSunday.count ∧
      Atlas.universal.wallAt? nextNewYearSunday = some nextNewYearSunday ∧
      nextNewYearSunday.count % Time.minute = 0 ∧
      newYearSunday.listing.Matches nextNewYearSunday :=
  ⟨by decide +kernel, nextRun_newYearSunday, by decide, by decide +kernel, by decide,
    ⟨by decide, by decide, by decide, by decide, by decide⟩⟩

end Listing

end Crontab
