import Crontab.Config.Resolution
import Crontab.Proofs.Task.Validity

/-!
# Valid options and their runs

Options that pass the validation are about to be scheduled.  Two components then read them that have
ideas of their own: the validation takes the description of a zone for the zone it names, while the
search for the next run takes names only and is handed the zone of a task as it is.

* `optionsRun` — the next run by the options of a task;
* `ScheduledRunError.isOfOptions` — the failures that the validation is to rule out;
* `Value.isDescription` — zones that are given by a description;
* `requestedRun_eq_timezone_iff` — a run is refused for its zone just if there is no such zone;
* `optionsRun_of_valid` — the runs by valid options.
-/

namespace Crontab

open Time

/-! ## Runs by options -/

/-- Why there is no next run by an expression in a zone. -/
inductive ScheduledRunError
  | expression (error : ParseError)
  | request (error : RequestError)

/-- Whether the expression or the zone is at fault, and not the reference or the search. -/
def ScheduledRunError.isOfOptions : ScheduledRunError → Bool
  | .expression _ => true
  | .request (.upcoming (.timezone _)) => true
  | .request _ => false

/-- The next run by an expression in a zone after a reference. -/
def scheduledRun (expression zone after : Value) (now : Moment) :
    Except ScheduledRunError Moment := do
  let schedule ← (Schedule.ofValue expression).mapError .expression
  (requestedRun schedule.listing zone after now).mapError .request

/-- The next run by the options of a task, without any options of the module. -/
def optionsRun (options after : Value) (now : Moment) : Except ScheduledRunError Moment :=
  scheduledRun (options.part "expression") (resolveTimezone (options.part "timezone") .null) after
    now

/-- Whether a zone is given, but not by its name. -/
def Value.isDescription (zone : Value) : Bool :=
  zone.isTruthy && zone.text?.isNone

section runs

variable {listing : Listing} {expression zone after : Value} {now : Moment}

/-- A run is refused for its zone just if there is no such zone, whatever the reference is. -/
theorem requestedRun_eq_timezone_iff {error : TimezoneError} :
    requestedRun listing zone after now = .error (.upcoming (.timezone error)) ↔
      zoneOf zone = .error error := by
  unfold requestedRun missingReference upcomingRun
  cases referenceOf? after now with
  | none => cases zoneOf zone <;> simp
  | some reference =>
    cases zoneOf zone with
    | error cause => simp [Except.mapError]
    | ok known =>
      simp only
      cases listing.nextRun known reference with
      | error cause => simp [Except.mapError]
      | ok run => simp [Except.mapError]

/-- A run by an expression that is read is the run that its schedule has. -/
theorem scheduledRun_of_schedule {schedule : Schedule}
    (h : Schedule.ofValue expression = .ok schedule) :
    scheduledRun expression zone after now =
      (requestedRun schedule.listing zone after now).mapError .request := by
  rw [scheduledRun, h]
  rfl

/-- Neither a schedule nor a known zone is at fault. -/
theorem scheduledRun_of_zone {schedule : Schedule} {known : Zone}
    (hSchedule : Schedule.ofValue expression = .ok schedule) (hZone : zoneOf zone = .ok known)
    {error : ScheduledRunError} (h : scheduledRun expression zone after now = .error error) :
    error.isOfOptions = false := by
  rw [scheduledRun_of_schedule hSchedule] at h
  cases hRun : requestedRun schedule.listing zone after now with
  | ok run =>
    rw [hRun] at h
    cases h
  | error cause =>
    rw [hRun] at h
    obtain rfl := Except.error.inj h
    rcases cause with (fault | fault) | _ | _
    · rw [requestedRun_eq_timezone_iff, hZone] at hRun
      cases hRun
    · rfl
    · rfl
    · rfl

/-- A zone that is none is at fault, whatever the reference is. -/
theorem scheduledRun_of_unknownZone {schedule : Schedule} {error : TimezoneError}
    (hSchedule : Schedule.ofValue expression = .ok schedule) (hZone : zoneOf zone = .error error) :
    scheduledRun expression zone after now = .error (.request (.upcoming (.timezone error))) := by
  rw [scheduledRun_of_schedule hSchedule, requestedRun_eq_timezone_iff.2 hZone]
  rfl

end runs

/-! ## Runs by valid options -/

/-- Without options of the module the zone of a task is its own, and universal time if it has
none. -/
theorem resolveTimezone_null (zone : Value) :
    resolveTimezone zone .null = zone.orElse (.text "UTC") :=
  rfl

/-- A value with a text is its own name of a zone. -/
theorem zoneName?_of_text? {zone : Value} (h : zone.text?.isSome = true) :
    zoneName? zone = some zone := by
  unfold zoneName?
  split
  · simp [Value.text?] at h
  · rw [if_pos h]

/-- The zone of universal time is known. -/
theorem exists_zoneOf_universal : ∃ known, zoneOf (.text "UTC") = .ok known :=
  ⟨Atlas.universal, rfl⟩

/-- A description of a zone is refused as an unknown zone. -/
theorem zoneOf_of_isDescription {zone : Value} (h : zone.isDescription = true) :
    zoneOf zone = .error (.unknownZone zone) := by
  simp only [Value.isDescription, Bool.and_eq_true, Option.isNone_iff_eq_none] at h
  rw [zoneOf, h.2]
  rfl

/-- **Runs by valid options.** If options are valid, then after every reference the next run by them
is refused neither for the expression nor for the zone, unless the zone is given by a description.
In that case the run is always refused for the zone, although it would not be in the zone that the
description names. -/
theorem optionsRun_of_valid {options : Value} {now : Moment} {verdict : Verdict}
    (h : Subject.options.validate options now = .ok verdict) (hValid : verdict.valid = true)
    (after : Value) (later : Moment) :
    ((options.part "timezone").isDescription = false →
      ∀ error, optionsRun options after later = .error error → error.isOfOptions = false) ∧
    ((options.part "timezone").isDescription = true →
      optionsRun options after later =
          .error (.request (.upcoming (.timezone (.unknownZone (options.part "timezone"))))) ∧
        ∃ name, zoneName? (options.part "timezone") = some name ∧
          ∀ error, scheduledRun (options.part "expression") name after later = .error error →
            error.isOfOptions = false) := by
  have hNone := Subject.violations_of_valid h hValid
  obtain ⟨hExpression, hTimezone, -⟩ := optionsViolations_eq_ok_nil_iff.1 hNone
  obtain ⟨schedule, hSchedule⟩ := exists_schedule hExpression
  unfold optionsRun
  generalize options.part "timezone" = zone at hTimezone ⊢
  rw [resolveTimezone_null]
  by_cases hGiven : zone.isTruthy = true
  · have hZone := isValidTimezone_of_timezoneViolations hTimezone hGiven
    obtain ⟨-, name, known, _, hName, hKnown, -⟩ := isValidTimezone_eq_ok_true_iff.1 hZone
    rw [Value.orElse, if_pos hGiven]
    constructor
    · intro hNamed error hError
      rw [Value.isDescription, hGiven, Bool.true_and, Option.isNone_eq_false_iff] at hNamed
      rw [zoneName?_of_text? hNamed] at hName
      obtain rfl := Option.some.inj hName
      exact scheduledRun_of_zone hSchedule hKnown hError
    · intro hDescription
      refine ⟨scheduledRun_of_unknownZone hSchedule (zoneOf_of_isDescription hDescription), name,
        hName, ?_⟩
      intro error hError
      exact scheduledRun_of_zone hSchedule hKnown hError
  · rw [Value.orElse, if_neg hGiven]
    constructor
    · intro _ error hError
      obtain ⟨known, hKnown⟩ := exists_zoneOf_universal
      exact scheduledRun_of_zone hSchedule hKnown hError
    · intro hDescription
      rw [Value.isDescription, Bool.and_eq_true] at hDescription
      exact absurd hDescription.1 hGiven

/-- Six o'clock on Mondays, in the zone of the given value. -/
def mondaysIn (zone : Value) : Value :=
  .mapping [("expression", .text "0 6 * * 1"), ("timezone", zone)]

/-- Three o'clock on the first day of 2024, which is a Monday. -/
def mondayAtThree : Moment :=
  .universal (.onDate ⟨2024, 1, 1⟩ (Wall.timeOfDay 3 0 0 0) (by decide))

/-- Options with a zone by its name are valid, and nothing is wrong with the run by them. -/
theorem optionsRun_of_valid_mondays :
    Subject.options.validate (mondaysIn (.text "Europe/Paris")) mondayAtThree = .ok ⟨[]⟩ ∧
      Verdict.valid ⟨[]⟩ = true ∧
      (((mondaysIn (.text "Europe/Paris")).part "timezone").isDescription = false →
        ∀ error,
          optionsRun (mondaysIn (.text "Europe/Paris")) .null mondayAtThree = .error error →
            error.isOfOptions = false) := by
  have hVerdict :
      Subject.options.validate (mondaysIn (.text "Europe/Paris")) mondayAtThree = .ok ⟨[]⟩ := rfl
  exact ⟨hVerdict, rfl, (optionsRun_of_valid hVerdict rfl .null mondayAtThree).1⟩

/-- The zone that describes universal time. -/
def describedUniversal : Value :=
  .mapping [("type", .text "UTC")]

/-- With a described zone the same options are valid and have no run. -/
theorem describedZone_refused :
    Subject.options.validate (mondaysIn describedUniversal) mondayAtThree = .ok ⟨[]⟩ ∧
      Verdict.valid ⟨[]⟩ = true ∧
      ∃ error,
        optionsRun (mondaysIn describedUniversal) (.moment mondayAtThree) mondayAtThree =
            .error error ∧
          error.isOfOptions = true :=
  ⟨rfl, rfl, _, rfl, rfl⟩

end Crontab
