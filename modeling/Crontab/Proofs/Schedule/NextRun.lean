import Crontab.Proofs.Schedule.Matching
import Crontab.Proofs.Time.Conversions
import Crontab.Proofs.Time.KeptSecond
import Crontab.Schedule.NextRun

/-!
# The next run is the first one

The search goes through the readings of a zone's clocks, while runs are instants.  On regular clocks
the first passes over the readings that are shown come in the order of the readings, so that the
first reading found is the first run.

* `Schedule.nextAfter_spec` — what the search finds, and what it has passed over;
* `startMinute_bounds` — where it starts;
* `Listing.IsNextRun`, `Listing.nextRun_isNextRun` — the next run is the first one after the
  reference.
-/

namespace Crontab

open Time

/-! ## The search -/

namespace Schedule

variable {schedule : Schedule} {zone : Zone} {reference : Wall}

/-- What it takes that a minute counts as a run. -/
theorem runAt_eq_some {minute : Nat} {utc : Wall}
    (h : runAt zone reference minute = .ok (some utc)) :
    ∃ wall, Wall.ofMinute? minute = some wall ∧ zone.utcOf? .first wall = some utc ∧
      zone.wallAt? utc = some wall ∧ reference.count < utc.count := by
  unfold runAt at h
  split at h
  · cases h
  next wall hWall =>
  split at h
  · cases h
  next first hFirst =>
  split at h
  · cases h
  next shown hShown =>
  have h := Except.ok.inj h
  split at h
  · next hRun =>
    obtain rfl := Option.some.inj h
    obtain ⟨rfl, hLater⟩ := hRun
    exact ⟨shown, hWall, hFirst, hShown, hLater⟩
  · cases h

/-- A minute that is shown and does not count as a run has its first pass before the reference. -/
theorem count_le_of_runAt_eq_none {minute : Nat} {wall first : Wall}
    (h : runAt zone reference minute = .ok none) (hWall : Wall.ofMinute? minute = some wall)
    (hFirst : zone.utcOf? .first wall = some first) (hShown : zone.wallAt? first = some wall) :
    first.count ≤ reference.count := by
  unfold runAt at h
  simp only [hWall, hFirst, hShown, true_and] at h
  by_contra hNot
  rw [if_pos (Nat.not_le.1 hNot)] at h
  cases h

/-- **What a search passes over.** The search ends with the first minute that fits and counts as a
run. -/
theorem nextAfter_spec {start : Nat} {utc : Wall}
    (h : schedule.nextAfter zone reference start = .ok utc) :
    ∃ minute, start ≤ minute ∧ schedule.fits minute = true ∧
      runAt zone reference minute = .ok (some utc) ∧
      ∀ other, start ≤ other → other < minute → schedule.fits other = true →
        runAt zone reference other = .ok none := by
  fun_induction nextAfter schedule zone reference start with
  | case1 start hLimit => cases h
  | case2 start hLimit hFit => cases h
  | case3 start hLimit fit hFit e hRun => cases h
  | case4 start hLimit fit hFit found hRun =>
    obtain rfl := Except.ok.inj h
    obtain ⟨hFits, hBefore⟩ := firstFit?_spec hFit
    refine ⟨fit, le_of_firstFit? hFit, hFits, hRun, fun other hLow hHigh hOther => ?_⟩
    rw [hBefore other hLow hHigh] at hOther
    cases hOther
  | case5 start hLimit fit hFit hRun ih =>
    obtain ⟨minute, hStart, hFits, hFound, hPassed⟩ := ih h
    have hBefore := (firstFit?_spec hFit).2
    have hLe := le_of_firstFit? hFit
    refine ⟨minute, by omega, hFits, hFound, fun other hLow hHigh hOther => ?_⟩
    rcases Nat.lt_trichotomy other fit with hLt | rfl | hGt
    · rw [hBefore other hLow hLt] at hOther
      cases hOther
    · exact hRun
    · exact hPassed other hGt hHigh hOther

end Schedule

/-! ## The start of a search -/

/-- A search starts with the minute after the second that is kept of the reference. -/
theorem startMinute_eq_ok {wall : Wall} {start : Nat} (h : startMinute wall = .ok start) :
    start = wall.keptSecond / 60 + 1 := by
  unfold startMinute at h
  split at h
  · cases h
  · exact (Except.ok.inj h).symm

/-- A search starts with the minute after a reading, or with the one after that if the seconds of
the reading are rounded up. -/
theorem startMinute_bounds {wall : Wall} {start : Nat} (h : startMinute wall = .ok start) :
    start = wall.minuteCount + 1 ∨ ¬wall.KeepsMinute ∧ start = wall.minuteCount + 2 := by
  have hBounds := wall.keptSecond_bounds
  have hStart := startMinute_eq_ok h
  by_cases hKeeps : wall.KeepsMinute
  · left
    rw [hStart, hKeeps]
  · right
    refine ⟨hKeeps, ?_⟩
    unfold Wall.KeepsMinute at hKeeps
    omega

/-- A search does not give up before it starts. -/
theorem startMinute_ne_exhausted (wall : Wall) : startMinute wall ≠ .error .exhausted := by
  unfold startMinute
  split <;> nofun

/-! ## The next run -/

namespace Listing

/-- The first run of a listing after a reference: it comes later, the clocks of the zone show a whole
minute that matches the listing, and no such minute has its first pass in between. -/
structure IsNextRun (listing : Listing) (zone : Zone) (reference found : Wall) : Prop where
  later : reference.count < found.count
  shown : ∃ wall, zone.wallAt? found = some wall ∧ wall.count % Time.minute = 0 ∧ listing.Matches wall
  /-- The guard is the assumption that the search starts with the minute after the reference: it keeps
  the seconds of the reference as a floating point number, which may round them up into a later
  minute.  Within 544 years of 1970 the assumption holds (`Wall.keepsMinute_of_near`). -/
  first : (∀ reading, zone.wallAt? reference = some reading → reading.KeepsMinute) →
    ∀ wall, wall.count % Time.minute = 0 → zone.Shows wall → listing.Matches wall →
      ∀ pass, zone.utcOf? .first wall = some pass → reference.count < pass.count →
        found.count ≤ pass.count

/-- Once its search has begun, a calculation of a next run has the result of the search. -/
theorem nextRun_eq_map {listing : Listing} {schedule : Schedule} {zone : Zone} {after : Moment}
    {reference reading : Wall} {start : Nat} (hReference : after.utc? = .ok reference)
    (hReading : zone.wallAt? reference = some reading) (hSchedule : listing.schedule = .ok schedule)
    (hStart : startMinute reading = .ok start) :
    listing.nextRun zone after =
      (schedule.nextAfter zone reference start).map Moment.universal := by
  simp only [nextRun, hReference, hReading, hSchedule, hStart, ok_bind]
  cases schedule.nextAfter zone reference start <;> rfl

/-- A calculation of a next run fails before its search begins, or its result is that of the
search. -/
theorem nextRun_cases (listing : Listing) (zone : Zone) (after : Moment) :
    (∃ cause, cause ≠ .exhausted ∧ listing.nextRun zone after = .error cause) ∨
      ∃ reference reading schedule start, after.utc? = .ok reference ∧
        zone.wallAt? reference = some reading ∧ listing.schedule = .ok schedule ∧
        startMinute reading = .ok start ∧
        listing.nextRun zone after =
          (schedule.nextAfter zone reference start).map Moment.universal := by
  unfold nextRun
  split
  · exact .inl ⟨.outOfCalendar, nofun, rfl⟩
  next reference hReference =>
  split
  · exact .inl ⟨.outOfCalendar, nofun, rfl⟩
  next reading hReading =>
  split
  · next fault hFault => exact .inl ⟨.listing listing fault, nofun, rfl⟩
  next schedule hSchedule =>
  cases hStart : startMinute reading with
  | error cause =>
    refine .inl ⟨cause, ?_, rfl⟩
    rintro rfl
    exact startMinute_ne_exhausted reading hStart
  | ok start =>
    refine .inr ⟨reference, reading, schedule, start, hReference, hReading, hSchedule, hStart, ?_⟩
    rw [ok_bind]
    cases schedule.nextAfter zone reference start <;> rfl

/-- The parts of the calculation of a next run. -/
theorem nextRun_eq_ok_iff {listing : Listing} {zone : Zone} {after run : Moment} :
    listing.nextRun zone after = .ok run ↔
      ∃ reference reading schedule start found, after.utc? = .ok reference ∧
        zone.wallAt? reference = some reading ∧ listing.schedule = .ok schedule ∧
        startMinute reading = .ok start ∧ schedule.nextAfter zone reference start = .ok found ∧
        .universal found = run := by
  constructor
  · intro h
    rcases listing.nextRun_cases zone after with ⟨cause, -, hError⟩ |
      ⟨reference, reading, schedule, start, hReference, hReading, hSchedule, hStart, hSearch⟩
    · cases hError.symm.trans h
    · obtain ⟨found, hFound, hRun⟩ := map_eq_ok.1 (hSearch.symm.trans h)
      exact ⟨reference, reading, schedule, start, found, hReference, hReading, hSchedule, hStart,
        hFound, hRun⟩
  · rintro ⟨reference, reading, schedule, start, found, hReference, hReading, hSchedule, hStart,
      hFound, rfl⟩
    rw [nextRun_eq_map hReference hReading hSchedule hStart, hFound]
    rfl

section found

variable {listing : Listing} {schedule : Schedule} {zone : Zone}
  {reference reading found : Wall} {start : Nat}

/-- What a search finds is the first pass over a whole minute that matches. -/
theorem exists_wall_of_nextAfter (hRange : listing.InRange) (hSchedule : listing.schedule = .ok schedule)
    (hFound : schedule.nextAfter zone reference start = .ok found) :
    reference.count < found.count ∧
      ∃ wall, zone.wallAt? found = some wall ∧ zone.utcOf? .first wall = some found ∧
        wall.count % Time.minute = 0 ∧ listing.Matches wall := by
  obtain ⟨own, hOwn, hValues⟩ := exists_schedule hRange
  obtain rfl : own = schedule := Except.ok.inj (hOwn.symm.trans hSchedule)
  obtain ⟨minute, -, hFits, hRun, -⟩ := Schedule.nextAfter_spec hFound
  obtain ⟨wall, hWall, hFirst, hShown, hLater⟩ := Schedule.runAt_eq_some hRun
  have hCount := Wall.ofMinute?_eq_some_iff.1 hWall
  refine ⟨hLater, wall, hShown, hFirst, ?_, (Schedule.fits_iff_matches hRange hValues hCount).1 hFits⟩
  rw [hCount]
  exact Nat.mul_mod_right Time.minute minute

/-- No whole minute that matches, from the start of a search on, has its first pass between the
reference and what the search finds. -/
theorem le_of_nextAfter (hRange : listing.InRange) (hZone : zone.Regular)
    (hSchedule : listing.schedule = .ok schedule)
    (hFound : schedule.nextAfter zone reference start = .ok found) {wall pass : Wall}
    (hWhole : wall.count % Time.minute = 0) (hShows : zone.Shows wall)
    (hMatches : listing.Matches wall) (hPass : zone.utcOf? .first wall = some pass)
    (hAfter : reference.count < pass.count) (hStart : start ≤ wall.minuteCount) :
    found.count ≤ pass.count := by
  obtain ⟨own, hOwn, hValues⟩ := exists_schedule hRange
  obtain rfl : own = schedule := Except.ok.inj (hOwn.symm.trans hSchedule)
  obtain ⟨minute, -, -, hRun, hPassed⟩ := Schedule.nextAfter_spec hFound
  obtain ⟨shown, hShownWall, hFirst, hShown, -⟩ := Schedule.runAt_eq_some hRun
  have hShownCount := Wall.ofMinute?_eq_some_iff.1 hShownWall
  have hCount := Wall.count_eq_of_whole hWhole
  have hPassCount := Zone.utcOf?_first_eq_some_iff.1 hPass
  have hFirstCount := Zone.utcOf?_first_eq_some_iff.1 hFirst
  -- an earlier minute was passed over as no run, and a later one has a later first pass
  rcases Nat.lt_trichotomy wall.minuteCount minute with hLt | hSame | hGt
  · have hNone := hPassed _ hStart hLt
      ((Schedule.fits_iff_matches hRange hValues hCount).2 hMatches)
    have := Schedule.count_le_of_runAt_eq_none hNone (Wall.ofMinute?_eq_some_iff.2 hCount) hPass
      (hZone.wallAt?_first hShows hPass)
    omega
  · rw [hSame, ← hShownCount] at hCount
    obtain rfl := Wall.eq_of_count_eq hCount
    omega
  · have hLt : shown.count < wall.count := by
      unfold Time.minute at hShownCount hCount
      omega
    have := hZone.firstCount_strictMono ⟨found, hShown⟩ hShows hLt
    omega

/-- The first minute that a search passes on to is the next run. -/
theorem isNextRun_of_nextAfter (hRange : listing.InRange) (hZone : zone.Regular)
    (hSchedule : listing.schedule = .ok schedule)
    (hReading : zone.wallAt? reference = some reading) (hStart : startMinute reading = .ok start)
    (hFound : schedule.nextAfter zone reference start = .ok found) :
    listing.IsNextRun zone reference found := by
  obtain ⟨hLater, wall, hShown, -, hWhole, hMatches⟩ :=
    exists_wall_of_nextAfter hRange hSchedule hFound
  refine ⟨hLater, ⟨wall, hShown, hWhole, hMatches⟩, ?_⟩
  intro hKeeps other hWhole hShows hMatches pass hPass hAfter
  have hStart : start = reading.minuteCount + 1 := by
    rw [startMinute_eq_ok hStart, hKeeps reading hReading]
  have hBehind := hZone.count_lt_of_first hReading hShows hPass hAfter
  refine le_of_nextAfter hRange hZone hSchedule hFound hWhole hShows hMatches hPass hAfter ?_
  unfold Wall.minuteCount at *
  unfold Time.minute at *
  omega

end found

/-- **The next run.** Whenever a listing of values of the fields has a next run on regular clocks,
the run is the first one after the reference, which is read as universal time if it is naive, and
every reference at the same instant has the same next run. -/
theorem nextRun_isNextRun {listing : Listing} {zone : Zone} (hRange : listing.InRange)
    (hZone : zone.Regular) {after run : Moment} (h : listing.nextRun zone after = .ok run) :
    ∃ reference found : Wall,
      (after.orOnClock .universal).instant? = some (reference.count : Int) ∧
      run = .universal found ∧ listing.IsNextRun zone reference found ∧
      ∀ other : Moment,
        (other.orOnClock .universal).instant? = (after.orOnClock .universal).instant? →
          listing.nextRun zone other = .ok run := by
  obtain ⟨reference, reading, schedule, start, found, hReference, hReading, hSchedule, hStart,
    hFound, hRun⟩ := nextRun_eq_ok_iff.1 h
  refine ⟨reference, found, Moment.utc?_eq_ok_iff.1 hReference, hRun.symm,
    isNextRun_of_nextAfter hRange hZone hSchedule hReading hStart hFound, ?_⟩
  intro other hSame
  rw [Moment.utc?_eq_ok_iff.1 hReference, ← Moment.utc?_eq_ok_iff] at hSame
  exact nextRun_eq_ok_iff.2 ⟨reference, reading, schedule, start, found, hSame, hReading, hSchedule,
    hStart, hFound, hRun⟩

/-- Every day at half past two. -/
def everyNight : Listing where
  minute := [30]
  hour := [2]
  dayOfMonth := (List.range' 1 31).map Int.ofNat
  month := (List.range' 1 12).map Int.ofNat
  dayOfWeek := (List.range 7).map Int.ofNat

/-- Noon of 7 March 2026, in universal time. -/
def noonBeforeGap : Wall :=
  .onDate ⟨2026, 3, 7⟩ (Wall.timeOfDay 12 0 0 0) (by decide)

/-- Half past six on 9 March 2026, in universal time. -/
def nightAfterGap : Wall :=
  .onDate ⟨2026, 3, 9⟩ (Wall.timeOfDay 6 30 0 0) (by decide)

/-- In the night in between the clocks of New York skip half past two. -/
theorem nextRun_isNextRun_over_gap :
    everyNight.InRange ∧ Atlas.newYork.Regular ∧
      everyNight.nextRun Atlas.newYork (.universal noonBeforeGap) = .ok (.universal nightAfterGap) ∧
      ∃ reference found : Wall,
        ((Moment.universal noonBeforeGap).orOnClock .universal).instant? =
          some (reference.count : Int) ∧
        Moment.universal nightAfterGap = .universal found ∧
        everyNight.IsNextRun Atlas.newYork reference found ∧
        ∀ other : Moment,
          (other.orOnClock .universal).instant? =
              ((Moment.universal noonBeforeGap).orOnClock .universal).instant? →
            everyNight.nextRun Atlas.newYork other = .ok (.universal nightAfterGap) := by
  have hRange : everyNight.InRange := by
    intro field
    cases field <;> decide
  have hZone : Atlas.newYork.Regular := Zone.regular_of_mem_all (by decide +kernel)
  have hRun : everyNight.nextRun Atlas.newYork (.universal noonBeforeGap) =
      .ok (.universal nightAfterGap) := by
    decide +kernel
  exact ⟨hRange, hZone, hRun, nextRun_isNextRun hRange hZone hRun⟩

end Listing

end Crontab
