import Crontab.Proofs.Schedule.NextRun
import Crontab.Schedule.Upcoming

/-!
# The next few runs

Every run is looked for after the one before.  Nothing is lost or found twice on the way: the runs
that are found are the first ones after the reference, in order.

* `Listing.IsRun`, `Listing.AreFirstRuns` — the runs of a listing, and the first of them after an
  instant;
* `Listing.AreFirstRuns.cons` — the first run after an instant and the first ones after that run;
* `Listing.nextRuns_add_iff` — the search goes on where it ended;
* `Listing.nextRuns_areFirstRuns` — the next few runs are the first ones.
-/

namespace Crontab

open Time

/-- The instant of a moment, which is read as universal time if it is naive. -/
theorem Time.Moment.exists_instant (moment : Moment) :
    ∃ instant, (moment.orOnClock .universal).instant? = some instant := by
  unfold orOnClock isNaive instant? offset?
  cases hClock : moment.clock with
  | naive => exact ⟨_, rfl⟩
  | fixed offset name => simp [hClock]
  | zoned zone => simp [hClock]

/-- A reading in universal time is at the instant that it counts. -/
theorem Time.Moment.instant?_universal (wall : Wall) :
    ((universal wall).orOnClock .universal).instant? = some (wall.count : Int) := by
  simp [orOnClock, isNaive, instant?, offset?, universal, Clock.universal]

namespace Listing

variable {listing : Listing} {zone : Zone}

/-! ## Runs -/

/-- A run of a listing: the first pass over a whole minute that is shown and matches. -/
def IsRun (listing : Listing) (zone : Zone) (run : Wall) : Prop :=
  ∃ wall, zone.Shows wall ∧ zone.utcOf? .first wall = some run ∧ wall.count % Time.minute = 0 ∧
    listing.Matches wall

/-- A search for runs after an instant starts with the next minute: its seconds, kept as a floating
point number, are not rounded up into a later minute. -/
def StartsWell (zone : Zone) (instant : Int) : Prop :=
  ∀ utc reading : Wall, (utc.count : Int) = instant → zone.wallAt? utc = some reading →
    reading.KeepsMinute

/-- The first runs of a listing after an instant, in order and without gaps. -/
structure AreFirstRuns (listing : Listing) (zone : Zone) (instant : Int) (runs : List Wall) :
    Prop where
  ascending : runs.Pairwise fun run later => run.count < later.count
  later : ∀ run ∈ runs, instant < run.count
  areRuns : ∀ run ∈ runs, listing.IsRun zone run
  /-- The guard is the assumption that the search starts with the minute after the instant: it keeps
  the seconds of the instant as a floating point number, which may round them up into a later minute.
  Within 544 years of 1970 the assumption holds (`Wall.keepsMinute_of_near`). -/
  complete : StartsWell zone instant → ∀ other, listing.IsRun zone other → instant < other.count →
    other ∈ runs ∨ ∀ run ∈ runs, run.count < other.count

/-- No runs are the first runs after any instant. -/
theorem AreFirstRuns.nil (listing : Listing) (zone : Zone) (instant : Int) :
    listing.AreFirstRuns zone instant [] where
  ascending := .nil
  later := List.forall_mem_nil _
  areRuns := List.forall_mem_nil _
  complete := fun _ _ _ _ => .inr (List.forall_mem_nil _)

/-- A search after a run starts well, because a run is a whole minute on the clocks of the zone. -/
theorem IsRun.startsWell (hZone : zone.Regular) {run : Wall} (h : listing.IsRun zone run) :
    StartsWell zone run.count := by
  obtain ⟨wall, hShows, hFirst, hWhole, -⟩ := h
  intro utc reading hCount hReading
  obtain rfl := Wall.eq_of_count_eq (Int.ofNat_inj.1 hCount)
  have hShown := hZone.wallAt?_first hShows hFirst
  obtain rfl := Option.some.inj (hShown.symm.trans hReading)
  refine Wall.keepsMinute_of_near (.inr ?_)
  unfold Wall.microsecond Time.second
  unfold Time.minute at hWhole
  omega

/-- **One step.** The first run after an instant and the first ones after that run are the first runs
after the instant. -/
theorem AreFirstRuns.cons {instant : Int} {run : Wall} {rest : List Wall} (hZone : zone.Regular)
    (hRun : listing.IsRun zone run) (hLater : instant < run.count)
    (hFirst : StartsWell zone instant → ∀ other, listing.IsRun zone other →
      instant < other.count → run.count ≤ other.count)
    (h : listing.AreFirstRuns zone run.count rest) :
    listing.AreFirstRuns zone instant (run :: rest) where
  ascending := List.pairwise_cons.2 ⟨fun other hOther => Int.ofNat_lt.1 (h.later other hOther),
    h.ascending⟩
  later := by
    rw [List.forall_mem_cons]
    exact ⟨hLater, fun other hOther => Int.lt_trans hLater (h.later other hOther)⟩
  areRuns := List.forall_mem_cons.2 ⟨hRun, h.areRuns⟩
  complete := by
    intro hStart other hOther hAfter
    rcases Nat.eq_or_lt_of_le (hFirst hStart other hOther hAfter) with hSame | hLt
    · obtain rfl := Wall.eq_of_count_eq hSame
      exact .inl List.mem_cons_self
    · rcases h.complete (hRun.startsWell hZone) other hOther (Int.ofNat_lt.2 hLt) with hMem | hBehind
      · exact .inl (List.mem_cons_of_mem run hMem)
      · exact .inr (List.forall_mem_cons.2 ⟨hLt, hBehind⟩)

/-- The next run is a run, and there is none between it and the reference. -/
theorem isRun_of_nextRun (hRange : listing.InRange) (hZone : zone.Regular) {after run : Moment}
    {instant : Int} (hInstant : (after.orOnClock .universal).instant? = some instant)
    (h : listing.nextRun zone after = .ok run) :
    ∃ found : Wall, run = .universal found ∧ listing.IsRun zone found ∧ instant < found.count ∧
      (StartsWell zone instant → ∀ other, listing.IsRun zone other → instant < other.count →
        found.count ≤ other.count) := by
  obtain ⟨reference, reading, schedule, start, found, hReference, hReading, hSchedule, hStart,
    hFound, hRun⟩ := nextRun_eq_ok_iff.1 h
  have hSame := hInstant.symm.trans (Moment.utc?_eq_ok_iff.1 hReference)
  obtain rfl := Option.some.inj hSame
  obtain ⟨hLater, wall, hShown, hFirst, hWhole, hMatches⟩ :=
    exists_wall_of_nextAfter hRange hSchedule hFound
  have hNext := isNextRun_of_nextAfter hRange hZone hSchedule hReading hStart hFound
  refine ⟨found, hRun.symm, ⟨wall, ⟨found, hShown⟩, hFirst, hWhole, hMatches⟩,
    Int.ofNat_lt.2 hLater, ?_⟩
  rintro hStarts other ⟨shown, hShows, hPass, hWhole, hMatches⟩ hAfter
  exact hNext.first (fun own hOwn => hStarts reference own rfl hOwn) shown hWhole hShows hMatches
    other hPass (Int.ofNat_lt.1 hAfter)

/-! ## Several runs -/

/-- One run more is the next run in front of the runs after it. -/
theorem nextRuns_succ_iff {after : Moment} {count : Nat} {runs : List Moment} :
    listing.nextRuns zone after (count + 1) = .ok runs ↔
      ∃ run rest, listing.nextRun zone after = .ok run ∧
        listing.nextRuns zone run count = .ok rest ∧ runs = run :: rest := by
  rw [nextRuns]
  constructor
  · intro h
    simp only [bind_eq_ok] at h
    obtain ⟨run, hRun, rest, hRest, h⟩ := h
    exact ⟨run, rest, hRun, hRest, (Except.ok.inj h).symm⟩
  · rintro ⟨run, rest, hRun, hRest, rfl⟩
    rw [hRun, ok_bind, hRest, ok_bind]
    rfl

/-- As many runs are found as are looked for. -/
theorem length_of_nextRuns {after : Moment} {count : Nat} {runs : List Moment}
    (h : listing.nextRuns zone after count = .ok runs) : runs.length = count := by
  induction count generalizing after runs with
  | zero =>
    obtain rfl := Except.ok.inj h
    rfl
  | succ count ih =>
    obtain ⟨run, rest, -, hRest, rfl⟩ := nextRuns_succ_iff.1 h
    rw [List.length_cons, ih hRest]

/-- **Going on.** More runs are found by looking for them after the last one. -/
theorem nextRuns_add_iff {after last : Moment} {count more : Nat} {runs others : List Moment}
    (h : listing.nextRuns zone after count = .ok runs) (hLast : runs.getLast? = some last) :
    listing.nextRuns zone after (count + more) = .ok (runs ++ others) ↔
      listing.nextRuns zone last more = .ok others := by
  induction count generalizing after runs with
  | zero =>
    obtain rfl := Except.ok.inj h
    cases hLast
  | succ count ih =>
    obtain ⟨run, rest, hRun, hRest, rfl⟩ := nextRuns_succ_iff.1 h
    rw [Nat.add_right_comm, nextRuns_succ_iff, List.cons_append]
    have hStep : (∃ first next, listing.nextRun zone after = .ok first ∧
        listing.nextRuns zone first (count + more) = .ok next ∧
        run :: (rest ++ others) = first :: next) ↔
          listing.nextRuns zone run (count + more) = .ok (rest ++ others) := by
      constructor
      · rintro ⟨first, next, hFirst, hNext, hSame⟩
        obtain ⟨rfl, rfl⟩ := List.cons.inj hSame
        exact hNext
      · exact fun hNext => ⟨run, _, hRun, hNext, rfl⟩
    rw [hStep]
    cases rest with
    | nil =>
      obtain rfl : run = last := Option.some.inj hLast
      have hCount := length_of_nextRuns hRest
      rw [← hCount, List.length_nil, Nat.zero_add, List.nil_append]
    | cons second rest => exact ih hRest (List.getLast?_cons_cons ▸ hLast)

/-- Fewer runs are the first ones of more. -/
theorem nextRuns_take {after : Moment} {count fewer : Nat} {runs : List Moment}
    (h : listing.nextRuns zone after count = .ok runs) (hLe : fewer ≤ count) :
    listing.nextRuns zone after fewer = .ok (runs.take fewer) := by
  induction fewer generalizing after count runs with
  | zero => rfl
  | succ fewer ih =>
    obtain ⟨rest, rfl⟩ := Nat.exists_eq_add_of_le' (Nat.lt_of_lt_of_le (Nat.succ_pos fewer) hLe)
    obtain ⟨run, others, hRun, hOthers, rfl⟩ := nextRuns_succ_iff.1 h
    exact nextRuns_succ_iff.2
      ⟨run, _, hRun, ih hOthers (Nat.le_of_succ_le_succ hLe), List.take_succ_cons⟩

/-- The runs that are found after an instant are the first ones. -/
theorem exists_areFirstRuns (hRange : listing.InRange) (hZone : zone.Regular) {after : Moment}
    {count : Nat} {runs : List Moment} {instant : Int}
    (hInstant : (after.orOnClock .universal).instant? = some instant)
    (h : listing.nextRuns zone after count = .ok runs) :
    ∃ found : List Wall, runs = found.map .universal ∧ listing.AreFirstRuns zone instant found := by
  induction count generalizing after runs instant with
  | zero =>
    obtain rfl := Except.ok.inj h
    exact ⟨[], rfl, .nil listing zone instant⟩
  | succ count ih =>
    obtain ⟨run, rest, hRun, hRest, rfl⟩ := nextRuns_succ_iff.1 h
    obtain ⟨found, rfl, hIsRun, hLater, hFirst⟩ := isRun_of_nextRun hRange hZone hInstant hRun
    obtain ⟨others, rfl, hOthers⟩ := ih (Moment.instant?_universal found) hRest
    exact ⟨found :: others, rfl, hOthers.cons hZone hIsRun hLater hFirst⟩

/-! ## Runs that are asked for -/

/-- What is asked for in a zone of a given name is looked for in that zone. -/
theorem requestedRuns_eq_ok_iff {name after : Value} {now reference : Moment} {n : Int}
    {runs : List Moment} (hName : zoneOf name = .ok zone)
    (hReference : referenceOf? after now = some reference) :
    requestedRuns listing name after (.int n) now = .ok runs ↔
      listing.nextRuns zone reference n.toNat = .ok runs := by
  unfold requestedRuns countOf?
  split
  · next hCount => cases hCount
  · next hCount =>
    rw [Option.some.inj hCount, nextRuns]
    exact ⟨fun h => congrArg Except.ok (Except.ok.inj h),
      fun h => congrArg Except.ok (Except.ok.inj h)⟩
  · next count hNonzero hCount =>
    obtain rfl := Option.some.inj hCount
    simp only [hReference, upcomingRuns, hName, mapError_eq_ok]
    rw [if_neg hNonzero, mapError_eq_ok]

/-- **The next few runs.** Who asks for the next few runs after a reference, by the name of a zone,
gets those that are found in that zone.  On regular clocks the runs of a listing of values of the
fields that are found are as many as are asked for, and they are the first ones after the reference.
Fewer runs are the first ones of them, and more are found after the last one of them. -/
theorem nextRuns_areFirstRuns (hRange : listing.InRange) (hZone : zone.Regular) {after : Value}
    {now reference : Moment} (hReference : referenceOf? after now = some reference) (n : Int) :
    (∀ name, zoneOf name = .ok zone → ∀ runs,
      requestedRuns listing name after (.int n) now = .ok runs ↔
        listing.nextRuns zone reference n.toNat = .ok runs) ∧
    ∀ runs, listing.nextRuns zone reference n.toNat = .ok runs →
      ∃ (instant : Int) (found : List Wall),
        (reference.orOnClock .universal).instant? = some instant ∧
        runs = found.map .universal ∧ (runs.length : Int) = max n 0 ∧
        listing.AreFirstRuns zone instant found ∧
        (∀ m ≤ n, listing.nextRuns zone reference m.toNat = .ok (runs.take m.toNat)) ∧
        ∀ last, runs.getLast? = some last → ∀ (more : Nat) (others : List Moment),
          listing.nextRuns zone reference (n.toNat + more) = .ok (runs ++ others) ↔
            listing.nextRuns zone last more = .ok others := by
  refine ⟨fun name hName runs => requestedRuns_eq_ok_iff hName hReference, fun runs h => ?_⟩
  obtain ⟨instant, hInstant⟩ := reference.exists_instant
  obtain ⟨found, hRuns, hFirst⟩ := exists_areFirstRuns hRange hZone hInstant h
  refine ⟨instant, found, hInstant, hRuns, ?_, hFirst, ?_, ?_⟩
  · rw [length_of_nextRuns h, Int.toNat_eq_max]
  · exact fun m hLe => nextRuns_take h (Int.toNat_le_toNat hLe)
  · exact fun last hLast more others => nextRuns_add_iff h hLast

/-- Half past six on 10 March 2026 in universal time. -/
def secondNightAfterGap : Wall :=
  .onDate ⟨2026, 3, 10⟩ (Wall.timeOfDay 6 30 0 0) (by decide)

/-- The two runs after the noon before the gap are those of the nights after it. -/
theorem nextRuns_areFirstRuns_over_gap :
    everyNight.InRange ∧ Atlas.newYork.Regular ∧
      referenceOf? .null (.universal noonBeforeGap) = some (.universal noonBeforeGap) ∧
      everyNight.nextRuns Atlas.newYork (.universal noonBeforeGap) (2 : Int).toNat =
        .ok [.universal nightAfterGap, .universal secondNightAfterGap] ∧
      ∃ (instant : Int) (found : List Wall),
        ((Moment.universal noonBeforeGap).orOnClock .universal).instant? = some instant ∧
        [Moment.universal nightAfterGap, .universal secondNightAfterGap] = found.map .universal ∧
        (2 : Int) = max 2 0 ∧ everyNight.AreFirstRuns Atlas.newYork instant found := by
  have hRange : everyNight.InRange := by
    intro field
    cases field <;> decide
  have hZone : Atlas.newYork.Regular := Zone.regular_of_mem_all (by decide +kernel)
  have hReference : referenceOf? .null (.universal noonBeforeGap) =
      some (.universal noonBeforeGap) := rfl
  have hRuns : everyNight.nextRuns Atlas.newYork (.universal noonBeforeGap) (2 : Int).toNat =
      .ok [.universal nightAfterGap, .universal secondNightAfterGap] := by
    decide +kernel
  obtain ⟨-, hFirstRuns⟩ := nextRuns_areFirstRuns hRange hZone hReference 2
  obtain ⟨instant, found, hInstant, hFound, hLength, hFirst, -⟩ := hFirstRuns _ hRuns
  exact ⟨hRange, hZone, hReference, hRuns, instant, found, hInstant, hFound, hLength, hFirst⟩

end Listing

end Crontab
