import Crontab.Cli.Run
import Crontab.Proofs.Config.Resolution
import Crontab.Proofs.Schedule.Enumeration
import Crontab.Proofs.Task.Scheduling

/-!
# Validated arguments and their runs

Arguments are validated by one command and their runs are listed by another one.  The first looks at a
given zone and at nothing else: the zone of the settings, which is in force where none is given, is
noticed only by the second.

* `Report.ListsRuns` — a report of the first runs on the clocks of a zone;
* `exists_runLines` — runs can be shown in the zone that they were computed in;
* `nextReport_cases`, `nextReport_of_zone` — the report on the runs in a known zone;
* `nextReport_of_unknownZone`, `nextReport_of_not_given` — the complaints about an unknown one;
* `validateReport_valid` — what it takes that arguments are valid;
* `runs_of_validated` — the runs of valid arguments.
-/

namespace Crontab.Cli

open Crontab.Time

/-! ## Runs on the clocks of a zone -/

/-- The line shows a run in universal time and as the clocks of a zone tell it. -/
def ShowsRun (zone : Zone) (name : String) (run : Wall) (line : String) : Prop :=
  ∃ shown, zone.Tells run shown ∧ line = runLine (.universal run) shown name

/-- The lines of the report show the first runs after a moment on the clocks of a zone. -/
def Report.ListsRuns (report : Report) (listing : Listing) (zone : Zone) (name : String)
    (after : Moment) : Prop :=
  ∃ (instant : Int) (runs : List Wall),
    (after.orOnClock .universal).instant? = some instant ∧
      listing.AreFirstRuns zone instant runs ∧ List.Forall₂ (ShowsRun zone name) runs report.lines

section zones

variable {listing : Listing} {zone : Zone} {name : String} {after : Moment} {count : Nat}

/-- A run is a reading of the clocks of its zone, and so it can be shown there. -/
theorem exists_shown {run : Wall} (hName : zoneOf (.text name) = .ok zone)
    (h : listing.IsRun zone run) :
    ∃ shown, convert (.moment (.universal run)) (.text "UTC") (.text name) = .ok shown ∧
      zone.Tells run shown := by
  obtain ⟨wall, hShows, hFirst, -, -⟩ := h
  have hZone := mem_all_of_zoneOf hName
  have hWall := (Zone.regular_of_mem_all hZone).wallAt?_first hShows hFirst
  have hShown : Moment.ofUtcZone? run zone = .ok ⟨wall, .zoned zone, zone.passAt run wall⟩ := by
    rw [Moment.ofUtcZone?, hWall]
  have hUtc : (Moment.universal run).utc? = .ok run :=
    Moment.utc?_eq_ok_iff.2 (Moment.instant?_universal run)
  obtain ⟨home, hHome⟩ := exists_zoneOf_universal
  refine ⟨_, convert_eq_ok_iff.2 ⟨.universal run, home, zone, rfl, hHome, hName, ?_⟩,
    Moment.tells_of_ofUtcZone? (Zone.steady_of_mem_all hZone) hShown⟩
  rw [Moment.orOnClock_of_aware rfl, Moment.inZone?, if_neg (by rintro ⟨⟩), hUtc, ok_bind, hShown]

/-- **Lines of runs.** All runs can be shown in the zone that they were computed in. -/
theorem exists_runLines {runs : List Wall} (hName : zoneOf (.text name) = .ok zone)
    (h : ∀ run ∈ runs, listing.IsRun zone run) :
    ∃ lines, runLines name (runs.map .universal) = (lines, none) ∧
      List.Forall₂ (ShowsRun zone name) runs lines := by
  induction runs with
  | nil => exact ⟨[], rfl, .nil⟩
  | cons run runs ih =>
    rw [List.forall_mem_cons] at h
    obtain ⟨shown, hConvert, hTells⟩ := exists_shown hName h.1
    obtain ⟨lines, hLines, hShow⟩ := ih h.2
    refine ⟨runLine (.universal run) shown name :: lines, ?_, .cons ⟨shown, hTells, rfl⟩ hShow⟩
    rw [List.map_cons, runLines, hConvert]
    simp only [hLines]

/-- Runs in a known zone are looked for on its clocks. -/
theorem upcomingRuns_of_zone {given : Value} (h : zoneOf given = .ok zone) :
    upcomingRuns listing given after count =
      (listing.nextRuns zone after count).mapError .search := by
  unfold upcomingRuns
  split
  · next hZero => rw [hZero]; rfl
  · rw [h]

/-- Without a zone there are no runs, unless none are looked for. -/
theorem upcomingRuns_of_unknownZone {given : Value} {error : TimezoneError}
    (h : zoneOf given = .error error) :
    upcomingRuns listing given after count =
      if count = 0 then .ok [] else .error (.timezone error) := by
  unfold upcomingRuns
  rw [h]

end zones

/-! ## The list of runs -/

section reports

variable {settings : Settings} {now later : Moment} {expression name : String}
  {timezone : Option String} {count : Option Int} {schedule : Schedule} {zone : Zone}
  {report next : Report}

/-- The zone of a task is resolved by the zone of the settings and whether it is imposed. -/
theorem resolveTimezone_moduleValue (settings : Settings) (taskZone : Value) :
    resolveTimezone taskZone (moduleValue settings) =
      zoneInForce (.text settings.timezone.zone) settings.timezone.strict taskZone :=
  rfl

/-- The zone in force for given arguments is given as a text. -/
theorem exists_resolveTimezone (settings : Settings) (timezone : Option String) :
    ∃ name, resolveTimezone (Value.ofText? timezone) (moduleValue settings) = .text name := by
  rw [resolveTimezone_moduleValue, zoneInForce, Value.orElse, Value.orElse]
  split
  · exact ⟨_, rfl⟩
  · split
    · cases timezone with
      | none => next hGiven => cases hGiven
      | some name => exact ⟨name, rfl⟩
    · split <;> exact ⟨_, rfl⟩

/-- Runs that were computed in a known zone are all shown there. -/
theorem shownRuns_of_zone {runs : List Wall} {listing : Listing}
    (hZone : zoneOf (.text name) = .ok zone) (h : ∀ run ∈ runs, listing.IsRun zone run) :
    ∃ lines, shownRuns (runs.map .universal) name =
        .ok { lines, log := [computedRuns runs.length name] } ∧
      List.Forall₂ (ShowsRun zone name) runs lines := by
  obtain ⟨lines, hLines, hShow⟩ := exists_runLines hZone h
  refine ⟨lines, ?_, hShow⟩
  simp only [shownRuns, hLines, List.length_map]

/-- Where runs are looked for in a known zone, they are found and listed, or the search fails. -/
theorem nextReport_cases (hSchedule : Schedule.parse expression = .ok schedule)
    (hResolve : resolveTimezone (Value.ofText? timezone) (moduleValue settings) = .text name)
    (hZone : zoneOf (.text name) = .ok zone) (later : Moment) (n : Int) :
    (∃ next runs, schedule.listing.nextRuns zone later n.toNat = .ok runs ∧
        nextReport settings later expression timezone (some n) = .ok next ∧ next.code = 0 ∧
        next.complaint = none ∧ next.ListsRuns schedule.listing zone name later ∧
        next.lines.length = n.toNat) ∨
      ∃ error, schedule.listing.nextRuns zone later n.toNat = .error error ∧
        (nextReport settings later expression timezone (some n) = .error (.outOfCalendar ⟨⟩) ∨
          nextReport settings later expression timezone (some n) = .ok (.fatal error.message)) := by
  simp only [nextReport, hSchedule, hResolve, upcomingRuns_of_zone hZone]
  cases hRuns : schedule.listing.nextRuns zone later n.toNat with
  | error error =>
    refine .inr ⟨error, rfl, ?_⟩
    cases error with
    | outOfCalendar => exact .inl rfl
    | _ => exact .inr rfl
  | ok runs =>
    obtain ⟨instant, hInstant⟩ := later.exists_instant
    obtain ⟨found, rfl, hFirst⟩ := Listing.exists_areFirstRuns (Schedule.inRange_listing hSchedule)
      (Zone.regular_of_mem_all (mem_all_of_zoneOf hZone)) hInstant hRuns
    obtain ⟨lines, hShown, hShow⟩ := shownRuns_of_zone hZone hFirst.areRuns
    have hLength := Listing.length_of_nextRuns hRuns
    rw [List.length_map, hShow.length_eq] at hLength
    simp only [Except.mapError, Value.plain, hShown]
    exact .inl ⟨_, _, rfl, rfl, rfl, rfl, ⟨instant, found, hInstant, hFirst, hShow⟩, hLength⟩

/-- **Runs in a known zone.** Nothing is complained about.  What is listed are the first runs on the
clocks of the zone, and as many as are asked for are listed if as many are found. -/
theorem nextReport_of_zone (hSchedule : Schedule.parse expression = .ok schedule)
    (hResolve : resolveTimezone (Value.ofText? timezone) (moduleValue settings) = .text name)
    (hZone : zoneOf (.text name) = .ok zone) (later : Moment) :
    (∀ count next, nextReport settings later expression timezone count = .ok next →
      next.complaint = none ∧ next.ListsRuns schedule.listing zone name later) ∧
    ∀ n : Int, (∃ runs, schedule.listing.nextRuns zone later n.toNat = .ok runs) ↔
      ∃ next, nextReport settings later expression timezone (some n) = .ok next ∧
        next.code = 0 ∧ next.lines.length = n.toNat := by
  constructor
  · intro count next h
    cases count with
    | none =>
      simp only [nextReport, hSchedule] at h
      cases h
    | some n =>
      rcases nextReport_cases hSchedule hResolve hZone later n with
        ⟨_, _, -, hNext, -, hFine, hLists, -⟩ | ⟨error, -, hNext | hNext⟩
      · obtain rfl := Except.ok.inj (hNext.symm.trans h)
        exact ⟨hFine, hLists⟩
      · cases hNext.symm.trans h
      · obtain rfl := Except.ok.inj (hNext.symm.trans h)
        obtain ⟨instant, hInstant⟩ := later.exists_instant
        exact ⟨rfl, instant, [], hInstant, .nil _ _ _, .nil⟩
  · intro n
    rcases nextReport_cases hSchedule hResolve hZone later n with
      ⟨next, runs, hRuns, hNext, hCode, -, -, hLength⟩ | ⟨error, hRuns, hNext⟩
    · exact ⟨fun _ => ⟨next, hNext, hCode, hLength⟩, fun _ => ⟨runs, hRuns⟩⟩
    · constructor
      · rintro ⟨runs, hFound⟩
        cases hRuns.symm.trans hFound
      · rintro ⟨next, hOk, hCode, -⟩
        rcases hNext with hNext | hNext
        · cases hNext.symm.trans hOk
        · obtain rfl := Except.ok.inj (hNext.symm.trans hOk)
          cases hCode

/-- **Runs in an unknown zone.** If there are runs to look for, and only then, the zone is complained
about. -/
theorem nextReport_of_unknownZone {error : TimezoneError}
    (hSchedule : Schedule.parse expression = .ok schedule)
    (hResolve : resolveTimezone (Value.ofText? timezone) (moduleValue settings) = .text name)
    (hZone : zoneOf (.text name) = .error error) (later : Moment) (message : String) :
    (∃ next, nextReport settings later expression timezone count = .ok next ∧
        next.complaint = some message) ↔
      (∃ n, count = some n ∧ 0 < n) ∧ message = error.message := by
  cases count with
  | none =>
    simp [nextReport, hSchedule]
  | some n =>
    simp only [nextReport, hSchedule, hResolve, upcomingRuns_of_unknownZone hZone]
    have hCount : n.toNat = 0 ↔ ¬ 0 < n := by omega
    by_cases hNone : n.toNat = 0
    · simp [hNone, hCount.1 hNone, shownRuns, runLines, Except.mapError]
    · have hSome : 0 < n := not_not.1 fun hNot => hNone (hCount.2 hNot)
      simp [hNone, hSome, Report.complain, eq_comm]

/-- The wording of the conflict of a given zone with the one that is imposed, if there is one. -/
def conflictsOf (settings : Settings) (timezone : Option String) : List String :=
  match timezone with
  | none => []
  | some name =>
    if name.isEmpty ||
        (resolveTimezone (Value.ofText? timezone) (moduleValue settings)).text? = some name then []
    else [conflictMessage name settings.timezone.zone]

/-- Arguments are valid if there are no violations and no conflict. -/
theorem violations_of_valid (h : validateReport settings now expression timezone = .ok report)
    (hValid : report.code = 0) :
    optionsViolations (.entity .options
        [("expression", .text expression), ("timezone", Value.ofText? timezone)]) now = .ok [] ∧
      conflictsOf settings timezone = [] := by
  simp only [validateReport, bind_eq_ok] at h
  obtain ⟨violations, hViolations, log, -, h⟩ := h
  change (if (violations.map Violation.message ++ conflictsOf settings timezone).isEmpty = true
    then _ else _) = _ at h
  split at h
  · next hErrors =>
    rw [List.isEmpty_iff, List.append_eq_nil_iff, List.map_eq_nil_iff] at hErrors
    exact ⟨hErrors.1 ▸ hViolations, hErrors.2⟩
  · obtain rfl := Except.ok.inj h
    cases hValid

/-- **Valid arguments.** The expression is a schedule, and a zone that is given is known and in
force. -/
theorem validateReport_valid (h : validateReport settings now expression timezone = .ok report)
    (hValid : report.code = 0) :
    (∃ schedule, Schedule.parse expression = .ok schedule) ∧
      ∀ name, timezone = some name → name ≠ "" →
        (∃ zone, zoneOf (.text name) = .ok zone) ∧
          resolveTimezone (Value.ofText? timezone) (moduleValue settings) = .text name := by
  obtain ⟨hViolations, hConflicts⟩ := violations_of_valid h hValid
  obtain ⟨hExpression, hTimezone, -⟩ := optionsViolations_eq_ok_nil_iff.1 hViolations
  refine ⟨exists_schedule hExpression, ?_⟩
  rintro name rfl hName
  have hGiven : (Value.text name).isTruthy = true := (isTruthy_iff_of_text? rfl).2 hName
  obtain ⟨-, known, zone, -, hKnown, hZone, -⟩ :=
    isValidTimezone_eq_ok_true_iff.1 (isValidTimezone_of_timezoneViolations hTimezone hGiven)
  obtain rfl := Option.some.inj hKnown
  refine ⟨⟨zone, hZone⟩, ?_⟩
  obtain ⟨inForce, hInForce⟩ := exists_resolveTimezone settings (some name)
  rw [conflictsOf, hInForce] at hConflicts
  split at hConflicts
  · next hSame =>
    simp only [Value.text?, hName, Bool.or_eq_true, String.isEmpty_iff, decide_eq_true_eq,
      Option.some.injEq, false_or] at hSame
    rw [hInForce, hSame]
  · cases hConflicts

/-- Without a zone that is given, that of the settings is in force, and universal time if they have
none. -/
theorem resolveTimezone_of_not_given (settings : Settings)
    (h : timezone = none ∨ timezone = some "") :
    resolveTimezone (Value.ofText? timezone) (moduleValue settings) =
      (Value.text settings.timezone.zone).orElse (.text "UTC") := by
  have hNone : (Value.ofText? timezone).isTruthy = false := by
    rcases h with rfl | rfl <;> rfl
  rw [resolveTimezone_moduleValue, zoneInForce_of_not_given hNone]

/-- **Runs without a zone.** The zone of the settings is complained about, just if it is unknown and
there are runs to look for. -/
theorem nextReport_of_not_given (hSchedule : Schedule.parse expression = .ok schedule)
    (h : timezone = none ∨ timezone = some "") (later : Moment) (count : Option Int)
    (message : String) :
    (∃ next, nextReport settings later expression timezone count = .ok next ∧
        next.complaint = some message) ↔
      settings.timezone.zone ≠ "" ∧ Zone.ofKey? settings.timezone.zone = none ∧
        (∃ n, count = some n ∧ 0 < n) ∧
        message = "Invalid timezone: " ++ settings.timezone.zone := by
  have hResolve := resolveTimezone_of_not_given settings h
  have hFine : ∀ {name zone}, resolveTimezone (Value.ofText? timezone) (moduleValue settings) =
      .text name → zoneOf (.text name) = .ok zone →
        ¬ ∃ next, nextReport settings later expression timezone count = .ok next ∧
          next.complaint = some message := by
    rintro name zone hInForce hZone ⟨next, hNext, hComplaint⟩
    have hNone := ((nextReport_of_zone hSchedule hInForce hZone later).1 count next hNext).1
    cases hNone.symm.trans hComplaint
  by_cases hEmpty : settings.timezone.zone = ""
  · obtain ⟨universal, hUniversal⟩ := exists_zoneOf_universal
    rw [hEmpty] at hResolve
    simp [hFine hResolve hUniversal, hEmpty]
  · rw [orElse_of_isTruthy ((isTruthy_iff_of_text? rfl).2 hEmpty)] at hResolve
    cases hZone : zoneOf (.text settings.timezone.zone) with
    | ok zone => simp [hFine hResolve hZone, zoneOf_text_eq_ok.1 hZone]
    | error error =>
      obtain ⟨hUnknown, rfl⟩ := zoneOf_text_eq_error.1 hZone
      rw [nextReport_of_unknownZone hSchedule hResolve hZone,
        TimezoneError.message_unknownZone hEmpty]
      simp [hEmpty, hUnknown]

/-- **The runs of valid arguments.** Once arguments are valid, their expression is never complained
about.  If a zone is given, nothing is complained about at all, and what is listed are the first
runs on the clocks of that zone, as these show them; they are listed if as many are found as are
asked for.  That none of the first runs is left out assumes, as in `AreFirstRuns`, that the search
starts with the next minute (`StartsWell`).  If no zone is given, the only complaint is about the
zone of the settings, just if that is unknown and there are runs to look for. -/
theorem runs_of_validated (h : validateReport settings now expression timezone = .ok report)
    (hValid : report.code = 0) :
    ∃ schedule, Schedule.parse expression = .ok schedule ∧
      (∀ name, timezone = some name → name ≠ "" →
        ∃ zone, zoneOf (.text name) = .ok zone ∧ ∀ later,
          (∀ count next, nextReport settings later expression timezone count = .ok next →
            next.complaint = none ∧ next.ListsRuns schedule.listing zone name later) ∧
          ∀ n : Int, (∃ runs, schedule.listing.nextRuns zone later n.toNat = .ok runs) ↔
            ∃ next, nextReport settings later expression timezone (some n) = .ok next ∧
              next.code = 0 ∧ next.lines.length = n.toNat) ∧
      (timezone = none ∨ timezone = some "" → ∀ later count message,
        (∃ next, nextReport settings later expression timezone count = .ok next ∧
            next.complaint = some message) ↔
          settings.timezone.zone ≠ "" ∧ Zone.ofKey? settings.timezone.zone = none ∧
            (∃ n, count = some n ∧ 0 < n) ∧
            message = "Invalid timezone: " ++ settings.timezone.zone) := by
  obtain ⟨⟨schedule, hSchedule⟩, hGiven⟩ := validateReport_valid h hValid
  refine ⟨schedule, hSchedule, fun name hTimezone hName => ?_, nextReport_of_not_given hSchedule⟩
  obtain ⟨⟨zone, hZone⟩, hResolve⟩ := hGiven name hTimezone hName
  exact ⟨zone, hZone, nextReport_of_zone hSchedule hResolve hZone⟩

/-- Settings of which only the zone is given. -/
def settingsIn (zone : String) : Settings :=
  ⟨StoragePatch.fill {}, ⟨zone, true, false⟩, "INFO", ""⟩

/-- The beginning of 6 January 2024, a Saturday. -/
def saturday : Moment :=
  .universal (.onDate ⟨2024, 1, 6⟩ 0 (by decide))

/-- Mondays at six in Tokyo are valid, and what is listed is the first of them. -/
theorem runs_of_validated_tokyo :
    validateReport (settingsIn "UTC") saturday "0 6 * * 1" (some "Asia/Tokyo") =
        .ok { lines := ["Valid"] } ∧
      ∃ next listing zone,
        nextReport (settingsIn "UTC") saturday "0 6 * * 1" (some "Asia/Tokyo") (some 1) = .ok next ∧
        next.lines = ["2024-01-07T21:00:00+00:00  (2024-01-08T06:00:00+09:00 Asia/Tokyo)"] ∧
        next.complaint = none ∧ next.ListsRuns listing zone "Asia/Tokyo" saturday := by
  have hValid : validateReport (settingsIn "UTC") saturday "0 6 * * 1" (some "Asia/Tokyo") =
      .ok { lines := ["Valid"] } := by
    decide +kernel
  have hNext : nextReport (settingsIn "UTC") saturday "0 6 * * 1" (some "Asia/Tokyo") (some 1) =
      .ok { lines := ["2024-01-07T21:00:00+00:00  (2024-01-08T06:00:00+09:00 Asia/Tokyo)"]
            log := [computedRuns 1 "Asia/Tokyo"] } := by
    decide +kernel
  obtain ⟨schedule, -, hGiven, -⟩ := runs_of_validated hValid rfl
  obtain ⟨zone, -, hRuns⟩ := hGiven "Asia/Tokyo" rfl (by decide)
  obtain ⟨hFine, hLists⟩ := (hRuns saturday).1 (some 1) _ hNext
  exact ⟨hValid, _, schedule.listing, zone, hNext, rfl, hFine, hLists⟩

/-- **A zone that is not validated.** In an environment with an unknown zone the arguments of a command
without a zone are valid, and still their runs cannot be listed. -/
theorem unknownZone_notValidated :
    Settings.ofEnvironment [("CRONKEEPER_TIMEZONE", "Mars/Olympus")] =
        .ok (settingsIn "Mars/Olympus") ∧
      validateReport (settingsIn "Mars/Olympus") saturday "0 6 * * 1" none =
        .ok { lines := ["Valid"] } ∧
      nextReport (settingsIn "Mars/Olympus") saturday "0 6 * * 1" none (some 5) =
        .ok { code := 1, complaint := some "Invalid timezone: Mars/Olympus" } := by
  refine ⟨?_, ?_, ?_⟩ <;> decide +kernel

end reports

end Crontab.Cli
