import Crontab.Proofs.Schedule.NextRun

/-!
# What lies between a reference and the next run

The clocks may show a minute that matches between a reference and the next run, but only when they
have shown it before: when clocks are set back, minutes are shown twice, and the search reads every
minute in its first pass.

* `Listing.nextRun_passesOver` — what is passed over has had its first pass by the reference;
* `Listing.secondPass_passedOver` — the second half past one of a night on which clocks are set back.
-/

namespace Crontab

open Time

namespace Listing

/-- An instant between a reference and a run at which the clocks of a zone show a whole minute that
matches a listing. -/
structure Misses (listing : Listing) (zone : Zone) (reference run utc wall : Wall) : Prop where
  after : reference.count < utc.count
  before : utc.count < run.count
  shown : zone.wallAt? utc = some wall
  whole : wall.count % Time.minute = 0
  matching : listing.Matches wall

/-- **What is passed over.** If the clocks of a zone show a whole minute that matches between a
reference and the next run, they show it in a second pass, and the first pass over it came no later
than the reference; but for the minute after the reference, if the seconds of the reference are
rounded up to it. -/
theorem nextRun_passesOver {listing : Listing} {zone : Zone} (hRange : listing.InRange)
    (hZone : zone.Regular) {after run : Moment} (h : listing.nextRun zone after = .ok run) :
    ∃ reference reading found : Wall,
      (after.orOnClock .universal).instant? = some (reference.count : Int) ∧
      zone.wallAt? reference = some reading ∧ run = .universal found ∧
      reference.count < found.count ∧
      ∀ utc wall, listing.Misses zone reference found utc wall →
        (zone.passAt utc wall = .second ∧ zone.firstCount wall ≤ reference.count) ∨
          (¬reading.KeepsMinute ∧ wall.minuteCount = reading.minuteCount + 1) := by
  obtain ⟨reference, reading, schedule, start, found, hReference, hReading, hSchedule, hStart,
    hFound, hRun⟩ := nextRun_eq_ok_iff.1 h
  have hNext := isNextRun_of_nextAfter hRange hZone hSchedule hReading hStart hFound
  refine ⟨reference, reading, found, Moment.utc?_eq_ok_iff.1 hReference, hReading, hRun.symm,
    hNext.later, fun utc wall hMisses => ?_⟩
  by_cases hFirst : zone.firstCount wall ≤ reference.count
  · refine .inl ⟨Zone.passAt_eq_second hMisses.shown ?_, hFirst⟩
    have := hMisses.after
    omega
  · have hShows : zone.Shows wall := ⟨utc, hMisses.shown⟩
    obtain ⟨first, hUtc, hLe⟩ := hZone.exists_utcOf?_first hMisses.shown (by omega)
    have hCount := Zone.utcOf?_first_eq_some_iff.1 hUtc
    have hBehind := hZone.count_lt_of_first hReading hShows hUtc (by omega)
    have hWhole := hMisses.whole
    have hBefore := hMisses.before
    have hSkipped : wall.minuteCount < start := by
      by_contra hNot
      have := le_of_nextAfter hRange hZone hSchedule hFound hWhole hShows hMisses.matching hUtc
        (by omega) (Nat.not_lt.1 hNot)
      omega
    have hLater : reading.minuteCount < wall.minuteCount := by
      unfold Wall.minuteCount Time.minute at *
      omega
    rcases startMinute_bounds hStart with hNear | ⟨hMoved, hNear⟩
    · omega
    · exact .inr ⟨hMoved, by omega⟩

/-- Every night at half past one. -/
def halfPastOne : Schedule where
  minute := [30]
  hour := [1]
  dayOfMonth := List.range' 1 31
  month := List.range' 1 12
  dayOfWeek := List.range 7

/-- A quarter past six on 3 November 2024 in universal time, at which the clocks of New York show a
quarter past one for the second time. -/
def secondQuarterPastOne : Wall :=
  .onDate ⟨2024, 11, 3⟩ (Wall.timeOfDay 6 15 0 0) (by decide)

/-- Half past six on 3 November 2024 in universal time, at which they show half past one again. -/
def secondHalfPastOne : Wall :=
  .onDate ⟨2024, 11, 3⟩ (Wall.timeOfDay 6 30 0 0) (by decide)

/-- Half past one on 3 November 2024, which the clocks of New York show twice. -/
def shownHalfPastOne : Wall :=
  .onDate ⟨2024, 11, 3⟩ (Wall.timeOfDay 1 30 0 0) (by decide)

/-- Half past six on 4 November 2024 in universal time. -/
def nextHalfPastOne : Wall :=
  .onDate ⟨2024, 11, 4⟩ (Wall.timeOfDay 6 30 0 0) (by decide)

theorem inRange_halfPastOne : halfPastOne.listing.InRange := by
  intro field
  cases field <;> decide

/-- After the second quarter past one the run of the next night is found. -/
theorem nextRun_halfPastOne :
    halfPastOne.listing.nextRun Atlas.newYork (.universal secondQuarterPastOne) =
      .ok (.universal nextHalfPastOne) := by
  decide +kernel

/-- What is passed over in that night is the second half past one. -/
theorem nextRun_passesOver_halfPastOne :
    halfPastOne.listing.InRange ∧ Atlas.newYork.Regular ∧
      halfPastOne.listing.nextRun Atlas.newYork (.universal secondQuarterPastOne) =
        .ok (.universal nextHalfPastOne) ∧
      ∃ reference reading found : Wall,
        ((Moment.universal secondQuarterPastOne).orOnClock .universal).instant? =
          some (reference.count : Int) ∧
        Atlas.newYork.wallAt? reference = some reading ∧
        Moment.universal nextHalfPastOne = .universal found ∧ reference.count < found.count ∧
        ∀ utc wall, halfPastOne.listing.Misses Atlas.newYork reference found utc wall →
          (Atlas.newYork.passAt utc wall = .second ∧
              Atlas.newYork.firstCount wall ≤ reference.count) ∨
            (¬reading.KeepsMinute ∧ wall.minuteCount = reading.minuteCount + 1) := by
  have hZone : Atlas.newYork.Regular := Zone.regular_of_mem_all (by decide +kernel)
  exact ⟨inRange_halfPastOne, hZone, nextRun_halfPastOne,
    nextRun_passesOver inRange_halfPastOne hZone nextRun_halfPastOne⟩

/-- **The second pass.** From a quarter past one on, in the second pass over it, the clocks show
half past one again, but the next run is on the next day. -/
theorem secondPass_passedOver :
    Schedule.parse "30 1 * * *" = .ok halfPastOne ∧
      halfPastOne.listing.nextRun Atlas.newYork (.universal secondQuarterPastOne) =
        .ok (.universal nextHalfPastOne) ∧
      halfPastOne.listing.Misses Atlas.newYork secondQuarterPastOne nextHalfPastOne
        secondHalfPastOne shownHalfPastOne :=
  ⟨by decide +kernel, nextRun_halfPastOne,
    { after := by decide
      before := by decide
      shown := by decide +kernel
      whole := by decide
      matching := ⟨by decide, by decide, by decide, by decide, by decide⟩ }⟩

end Listing

end Crontab
