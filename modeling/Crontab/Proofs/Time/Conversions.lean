import Crontab.Proofs.Data.Outcomes
import Crontab.Proofs.Time.Passes
import Crontab.Time.Conversion

/-!
# What a conversion shows

A conversion to a zone keeps the instant of a date and shows what the clocks of the zone show there.
There is one exception: a date that stands on the clock of that zone already is returned as it is, and
then its reading may be one that the clocks skip.

* `Clock.IsKnown` — clocks that are in no zone but a known one;
* `Zone.Tells` — a moment is what the clocks of a zone show at an instant;
* `Moment.inZone?_eq_ok` — the two ways to put a moment on the clocks of a zone;
* `convert_shown` — what a conversion shows;
* `skippedReading_kept` — a reading that is skipped and returned.
-/

namespace Crontab.Time

/-! ## Zones by name -/

/-- Every zone that is found is one of the known ones. -/
theorem mem_all_of_zoneOf {name : Value} {zone : Zone} (h : zoneOf name = .ok zone) :
    zone ∈ Zone.all := by
  unfold zoneOf at h
  split at h
  · next known hKnown =>
    obtain rfl := Except.ok.inj h
    obtain ⟨key, -, hKey⟩ := Option.bind_eq_some_iff.1 hKnown
    exact List.mem_of_find?_eq_some hKey
  · cases h

/-- The text of a known key names the zone with that key. -/
theorem zoneOf_text_eq_ok {key : String} {zone : Zone} :
    zoneOf (.text key) = .ok zone ↔ Zone.ofKey? key = some zone := by
  have hText : (Value.text key).text?.bind Zone.ofKey? = Zone.ofKey? key := rfl
  rw [zoneOf, hText]
  cases Zone.ofKey? key with
  | none => simp
  | some known => simp

/-- Any other text is refused as the name of an unknown zone. -/
theorem zoneOf_text_eq_error {name : String} {error : TimezoneError} :
    zoneOf (.text name) = .error error ↔
      Zone.ofKey? name = none ∧ error = .unknownZone (.text name) := by
  have hText : (Value.text name).text?.bind Zone.ofKey? = Zone.ofKey? name := rfl
  rw [zoneOf, hText]
  cases Zone.ofKey? name with
  | none => simp [eq_comm]
  | some known => simp

/-- The wording of a name that no zone has. -/
theorem TimezoneError.message_unknownZone {name : String} (hName : name ≠ "") :
    (TimezoneError.unknownZone (.text name)).message = "Invalid timezone: " ++ name := by
  have hText : (Value.text name).text?.any (!·.isEmpty) = true := by
    rw [Value.text?, Option.any_some, Bool.not_eq_true', String.isEmpty_eq_false_iff]
    exact hName
  exact congrArg ("Invalid timezone: " ++ ·) (if_pos hText)

/-- Of the known zones no two have the same key. -/
theorem Zone.eq_of_key_eq {zone other : Zone} (h : zone ∈ Zone.all) (hOther : other ∈ Zone.all)
    (hKey : zone.key = other.key) : zone = other := by
  have hAll : ∀ zone ∈ Zone.all, Zone.ofKey? zone.key = some zone := by decide +kernel
  have hFound := hAll zone h
  rw [hKey, hAll other hOther] at hFound
  exact (Option.some.inj hFound).symm

/-- A conversion goes by the zone that its name stands for. -/
theorem conversionZone_eq_ok {name : Value} {zone : Zone} :
    conversionZone name = .ok zone ↔ zoneOf name = .ok zone := by
  unfold conversionZone
  cases zoneOf name with
  | ok known => simp
  | error e => simp

/-- A conversion has a result exactly when its calculation has that result. -/
theorem conversionResult_eq_ok {α : Type} {name : Value} {x : Except OutOfCalendar α} {result : α} :
    conversionResult name x = .ok result ↔ x = .ok result := by
  cases x with
  | ok own => simp [conversionResult]
  | error e => simp [conversionResult]

/-! ## Moments on the clocks of a zone -/

/-- A clock is not set to any zone but a known one. -/
def Clock.IsKnown (clock : Clock) : Prop :=
  ∀ zone, clock = .zoned zone → zone ∈ Zone.all

/-- A moment is what the clocks of a zone show when clocks set to universal time show `utc`. -/
structure Zone.Tells (zone : Zone) (utc : Wall) (moment : Moment) : Prop where
  clock : moment.clock = .zoned zone
  wall : zone.wallAt? utc = some moment.wall
  offset : moment.offset? = some (zone.typeAt utc).span

namespace Moment

variable {moment result : Moment} {zone : Zone} {utc : Wall}

/-- A moment is in a known zone exactly when that zone is its clock. -/
theorem isIn_iff (hKnown : moment.clock.IsKnown) (hZone : zone ∈ Zone.all) :
    moment.isIn zone = true ↔ moment.clock = .zoned zone := by
  unfold isIn
  cases hClock : moment.clock with
  | naive => simp
  | fixed offset name => simp
  | zoned own =>
    have hOwn : own ∈ Zone.all := hKnown own hClock
    simp only [decide_eq_true_eq, Clock.zoned.injEq]
    constructor
    · intro hKey
      exact Zone.eq_of_key_eq hOwn hZone hKey
    · intro hSame
      rw [hSame]

/-- What clocks set to universal time show at a moment, as its instant. -/
theorem utc?_eq_ok_iff :
    moment.utc? = .ok utc ↔ (moment.orOnClock .universal).instant? = some (utc.count : Int) := by
  have hShift : moment.utc? = .ok utc ↔
      (utc.count : Int) = moment.wall.count - moment.offset?.getD 0 := by
    unfold Moment.utc?
    rw [Int.sub_eq_add_neg, ← Wall.shift?_eq_some_iff]
    split
    · next shown hShown => simp [hShown]
    · next hShown => simp [hShown]
  rw [hShift]
  unfold Moment.orOnClock Moment.isNaive Moment.instant? Moment.offset?
  cases hClock : moment.clock with
  | naive =>
    simp [Moment.onClock, Clock.universal]
    omega
  | fixed offset name =>
    simp [hClock]
    omega
  | zoned zone =>
    simp [hClock]
    omega

/-- Aware moments keep their own clock. -/
theorem orOnClock_of_aware (h : moment.isNaive = false) (clock : Clock) :
    moment.orOnClock clock = moment := by
  rw [orOnClock, h, if_neg Bool.false_ne_true]

/-- Unless a moment is naive, clocks set to universal time show its instant. -/
theorem utc?_eq_ok_iff_of_aware (h : moment.isNaive = false) :
    moment.utc? = .ok utc ↔ moment.instant? = some (utc.count : Int) := by
  rw [utc?_eq_ok_iff, orOnClock_of_aware h]

theorem isNaive_of_zoned (h : moment.clock = .zoned zone) : moment.isNaive = false := by
  simp [isNaive, h]

/-- What is put on the clocks of a steady zone is what they show. -/
theorem tells_of_ofUtcZone? (hZone : zone.Steady) (h : ofUtcZone? utc zone = .ok result) :
    zone.Tells utc result := by
  unfold ofUtcZone? at h
  split at h
  · next wall hWall =>
    obtain rfl := Except.ok.inj h
    refine ⟨rfl, hWall, ?_⟩
    show some (zone.typeOnWall (zone.passAt utc wall) wall).span = some (zone.typeAt utc).span
    unfold LocalType.span
    rw [hZone.offset_typeOnWall_passAt hWall]
  · cases h

/-- A moment is put on the clocks of a zone in two ways: it is left alone if it stands on them already,
and otherwise it becomes what they show at its instant. -/
theorem inZone?_eq_ok (hAware : moment.isNaive = false) (hKnown : moment.clock.IsKnown)
    (hZone : zone ∈ Zone.all) (h : moment.inZone? zone = .ok result) :
    (moment.clock = .zoned zone ∧ result = moment) ∨
      (moment.clock ≠ .zoned zone ∧
        ∃ utc : Wall, moment.instant? = some (utc.count : Int) ∧ zone.Tells utc result) := by
  unfold inZone? at h
  by_cases hIsIn : moment.isIn zone = true
  · rw [if_pos hIsIn] at h
    left
    exact ⟨(isIn_iff hKnown hZone).1 hIsIn, (Except.ok.inj h).symm⟩
  · rw [if_neg hIsIn] at h
    right
    obtain ⟨utc, hUtc, hResult⟩ := bind_eq_ok.1 h
    refine ⟨?_, utc, (utc?_eq_ok_iff_of_aware hAware).1 hUtc, ?_⟩
    · intro hClock
      exact hIsIn ((isIn_iff hKnown hZone).2 hClock)
    · exact tells_of_ofUtcZone? (Zone.steady_of_mem_all hZone) hResult

/-- The offset of a moment in a zone is the one the zone has on its wall clock. -/
theorem offset?_of_zoned (h : moment.clock = .zoned zone) :
    moment.offset? = some (zone.typeOnWall moment.pass moment.wall).span := by
  simp only [offset?, h]

/-- A moment on the clock of a zone has the instant that its reading means in its pass. -/
theorem utcOf?_of_instant? (hClock : moment.clock = .zoned zone)
    (h : moment.instant? = some (utc.count : Int)) :
    zone.utcOf? moment.pass moment.wall = some utc := by
  simp only [instant?, offset?_of_zoned hClock, Option.map_some, Option.some.injEq] at h
  exact Zone.utcOf?_eq_some_iff.2 h.symm

/-- A moment on the clock of a zone is what the clock shows at its instant exactly if the clock shows
the reading at all. -/
theorem tells_iff_shows (hZone : zone.Steady) (hClock : moment.clock = .zoned zone)
    (h : moment.instant? = some (utc.count : Int)) :
    zone.Tells utc moment ↔ zone.Shows moment.wall := by
  constructor
  · intro hTells
    exact ⟨utc, hTells.wall⟩
  · intro hShows
    have hUtc := utcOf?_of_instant? hClock h
    have hWall := hZone.wallAt?_utcOf? hShows hUtc
    refine ⟨hClock, hWall, ?_⟩
    -- the offset in force at the instant is the one between the two readings
    have hBack := Zone.utcOf?_eq_some_iff.1 hUtc
    have hThere := Zone.wallAt?_eq_some_iff.1 hWall
    rw [offset?_of_zoned hClock, Option.some.injEq]
    omega

end Moment

/-- A moment that a zone tells at some instant is the moment of that instant. -/
theorem Zone.Tells.instant? {zone : Zone} {utc : Wall} {moment : Moment} (h : zone.Tells utc moment) :
    moment.instant? = some (utc.count : Int) := by
  have hCount := Zone.wallAt?_eq_some_iff.1 h.wall
  simp only [Moment.instant?, h.offset, Option.map_some, Option.some.injEq]
  omega

/-! ## Conversions between zones -/

/-- Read on the clock of a zone, every moment is aware. -/
theorem Moment.isNaive_orOnClock (moment : Moment) (zone : Zone) :
    (moment.orOnClock (.zoned zone)).isNaive = false := by
  unfold orOnClock
  cases hNaive : moment.isNaive with
  | true => simp [onClock, isNaive]
  | false => simpa using hNaive

/-- A date that is read in a known zone stands on a known clock. -/
theorem Clock.IsKnown.orOnClock {moment : Moment} {zone : Zone} (h : moment.clock.IsKnown)
    (hZone : zone ∈ Zone.all) : (moment.orOnClock (.zoned zone)).clock.IsKnown := by
  unfold Moment.orOnClock
  split
  · intro own hOwn
    obtain rfl := Clock.zoned.inj hOwn
    exact hZone
  · exact h

/-- A conversion succeeds when the date and both zones are known and the moment is shown in the
target zone. -/
theorem convert_eq_ok_iff {date source target : Value} {result : Moment} :
    convert date source target = .ok result ↔
      ∃ moment home zone, dateOf date = .ok moment ∧ zoneOf source = .ok home ∧
        zoneOf target = .ok zone ∧ (moment.orOnClock (.zoned home)).inZone? zone = .ok result := by
  simp only [convert, bind_eq_ok, conversionZone_eq_ok, conversionResult_eq_ok]
  constructor
  · rintro ⟨moment, hDate, home, hHome, zone, hZone, h⟩
    exact ⟨moment, home, zone, hDate, hHome, hZone, h⟩
  · rintro ⟨moment, home, zone, hDate, hHome, hZone, h⟩
    exact ⟨moment, hDate, home, hHome, zone, hZone, h⟩

/-- **What a conversion shows.** Whenever a date on a known clock is converted to a zone, the result
stands on the clock of that zone and has the instant of the date.  Unless the date, read in the source
zone if it is naive, stands on that clock already, the result is what the clock shows at the instant.
If it does, it is returned as it is, and that is what the clock shows exactly if the clock shows such a
reading at all. -/
theorem convert_shown {date source target : Value} {moment result : Moment}
    (hDate : dateOf date = .ok moment) (hKnown : moment.clock.IsKnown)
    (h : convert date source target = .ok result) :
    ∃ home zone, zoneOf source = .ok home ∧ zoneOf target = .ok zone ∧
      result.clock = .zoned zone ∧
      result.instant? = (moment.orOnClock (.zoned home)).instant? ∧
      ((moment.orOnClock (.zoned home)).clock ≠ .zoned zone →
        ∃ utc : Wall, result.instant? = some (utc.count : Int) ∧ zone.Tells utc result) ∧
      ((moment.orOnClock (.zoned home)).clock = .zoned zone →
        result = moment.orOnClock (.zoned home) ∧
          ∀ utc : Wall, result.instant? = some (utc.count : Int) →
            (zone.Tells utc result ↔ zone.Shows result.wall)) := by
  obtain ⟨own, home, zone, hOwn, hHome, hZone, hResult⟩ := convert_eq_ok_iff.1 h
  obtain rfl : own = moment := Except.ok.inj (hOwn.symm.trans hDate)
  have hMember := mem_all_of_zoneOf hZone
  have hAware := hKnown.orOnClock (mem_all_of_zoneOf hHome)
  have hNaive := own.isNaive_orOnClock home
  refine ⟨home, zone, hHome, hZone, ?_⟩
  rcases Moment.inZone?_eq_ok hNaive hAware hMember hResult with
    ⟨hClock, rfl⟩ | ⟨hClock, utc, hInstant, hTells⟩
  · refine ⟨hClock, rfl, fun hOther => absurd hClock hOther, fun _ => ⟨rfl, ?_⟩⟩
    intro utc hInstant
    exact Moment.tells_iff_shows (Zone.steady_of_mem_all hMember) hClock hInstant
  · refine ⟨hTells.clock, ?_, fun _ => ⟨utc, hTells.instant?, hTells⟩,
      fun hSame => absurd hSame hClock⟩
    rw [hTells.instant?, hInstant]

/-- Half past one on 27 October 2024 in universal time, at which the clocks of Paris show half past two
for the second time. -/
def fallBackHalfPastOne : Wall :=
  .onDate ⟨2024, 10, 27⟩ (Wall.timeOfDay 1 30 0 0) (by decide)

/-- What those clocks show then. -/
def fallBackHalfPastTwo : Wall :=
  .onDate ⟨2024, 10, 27⟩ (Wall.timeOfDay 2 30 0 0) (by decide)

/-- Half past one on the night Paris falls back is shown there as the second half past two. -/
theorem convert_shown_fallBack :
    dateOf (.moment (.universal fallBackHalfPastOne)) = .ok (.universal fallBackHalfPastOne) ∧
      (Moment.universal fallBackHalfPastOne).clock.IsKnown ∧
      convert (.moment (.universal fallBackHalfPastOne)) (.text "UTC") (.text "Europe/Paris") =
        .ok ⟨fallBackHalfPastTwo, .zoned Atlas.paris, .second⟩ ∧
      ∃ zone, zoneOf (.text "Europe/Paris") = .ok zone ∧
        zone.Tells fallBackHalfPastOne ⟨fallBackHalfPastTwo, .zoned Atlas.paris, .second⟩ := by
  have hKnown : (Moment.universal fallBackHalfPastOne).clock.IsKnown := by
    intro zone hZone
    cases hZone
  have hResult : convert (.moment (.universal fallBackHalfPastOne)) (.text "UTC")
      (.text "Europe/Paris") = .ok ⟨fallBackHalfPastTwo, .zoned Atlas.paris, .second⟩ :=
    convert_eq_ok_iff.2 ⟨.universal fallBackHalfPastOne, Atlas.universal, Atlas.paris, rfl,
      zoneOf_text_eq_ok.2 (by decide +kernel), zoneOf_text_eq_ok.2 (by decide +kernel),
      by decide +kernel⟩
  refine ⟨rfl, hKnown, hResult, ?_⟩
  obtain ⟨home, zone, -, hZone, hClock, -, hElsewhere, -⟩ := convert_shown rfl hKnown hResult
  obtain rfl := Clock.zoned.inj hClock
  obtain ⟨utc, hInstant, hTells⟩ := hElsewhere Clock.noConfusion
  have hOwn : Moment.instant? ⟨fallBackHalfPastTwo, .zoned Atlas.paris, .second⟩ =
      some (fallBackHalfPastOne.count : Int) := by
    decide +kernel
  rw [hOwn, Option.some.injEq, Int.ofNat_inj] at hInstant
  obtain rfl := Wall.eq_of_count_eq hInstant
  exact ⟨_, hZone, hTells⟩

/-- Half past two on 10 March 2024, which the clocks of New York skip. -/
def springForwardHalfPastTwo : Wall :=
  .onDate ⟨2024, 3, 10⟩ (Wall.timeOfDay 2 30 0 0) (by decide)

/-- Half past seven on 10 March 2024 in universal time. -/
def springForwardHalfPastSeven : Wall :=
  .onDate ⟨2024, 3, 10⟩ (Wall.timeOfDay 7 30 0 0) (by decide)

/-- Half past three on 10 March 2024, which the clocks of New York show at half past seven. -/
def springForwardHalfPastThree : Wall :=
  .onDate ⟨2024, 3, 10⟩ (Wall.timeOfDay 3 30 0 0) (by decide)

/-- **A reading that is skipped.** Half past two in a night on which the clocks of New York are set
forward from two to three is returned as it is by a conversion from New York to New York, although the
clocks never show it.  Under the other name of the zone it is converted to half past three, which is
what they show at the instant. -/
theorem skippedReading_kept :
    convert (.moment ⟨springForwardHalfPastTwo, .naive, .first⟩) (.text "America/New_York")
        (.text "America/New_York") =
        .ok ⟨springForwardHalfPastTwo, .zoned Atlas.newYork, .first⟩ ∧
      convert (.moment ⟨springForwardHalfPastTwo, .naive, .first⟩) (.text "US/Eastern")
        (.text "America/New_York") =
        .ok ⟨springForwardHalfPastThree, .zoned Atlas.newYork, .first⟩ ∧
      Moment.instant? ⟨springForwardHalfPastTwo, .zoned Atlas.newYork, .first⟩ =
        some (springForwardHalfPastSeven.count : Int) ∧
      Atlas.newYork.Tells springForwardHalfPastSeven
        ⟨springForwardHalfPastThree, .zoned Atlas.newYork, .first⟩ ∧
      ¬Atlas.newYork.Shows springForwardHalfPastTwo := by
  refine ⟨?_, ?_, by decide +kernel, ⟨rfl, by decide +kernel, by decide +kernel⟩, ?_⟩
  · exact convert_eq_ok_iff.2 ⟨_, Atlas.newYork, Atlas.newYork, rfl,
      zoneOf_text_eq_ok.2 (by decide +kernel), zoneOf_text_eq_ok.2 (by decide +kernel),
      by decide +kernel⟩
  · exact convert_eq_ok_iff.2 ⟨_, Atlas.newYork.renamed "US/Eastern", Atlas.newYork, rfl,
      zoneOf_text_eq_ok.2 (by decide +kernel), zoneOf_text_eq_ok.2 (by decide +kernel),
      by decide +kernel⟩
  · intro hShows
    have hZone : Atlas.newYork.Steady := Zone.steady_of_mem_all (by decide +kernel)
    have hFirst : Atlas.newYork.utcOf? .first springForwardHalfPastTwo =
        some springForwardHalfPastSeven := by
      decide +kernel
    have hWall := hZone.wallAt?_utcOf? hShows hFirst
    revert hWall
    decide +kernel

end Crontab.Time
