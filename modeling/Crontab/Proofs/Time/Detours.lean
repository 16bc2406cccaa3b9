import Crontab.Proofs.Time.Conversions

/-!
# Detours

The three conversions can be chained, each of them fed what the one before returned.  Whatever zones
such a chain passes through, its result shows what a single conversion to the last one shows, provided
that the clocks of the zone in which the date is read show it at all.

* `Conversion`, `runAll` — calls of the conversions, and chains of them;
* `direct` — a single conversion from any clock to any other one;
* `LocalClock.readOn`, `LocalClock.showOn` — the two halves of every conversion;
* `Moment.IsSound` — moments that are on known clocks and are shown by them, which is what every
  conversion keeps;
* `exists_showOn_of_showOn` — two conversions after each other are one;
* `runAll_eq_direct` — so are all of a chain.
-/

namespace Crontab.Time

/-! ## Chains of conversions -/

/-- A moment as it is, or a naive one as a reading of the local clock. -/
def LocalClock.aware (clock : LocalClock) (moment : Moment) : Except OutOfCalendar Moment :=
  if moment.isNaive then clock.read moment else .ok moment

/-- A date on the local clock; a naive date is a reading of it. -/
def onLocalClock (clock : LocalClock) (date : Value) : Except ConversionError Moment := do
  let moment ← dateOf date
  let aware ← conversionResult .null (clock.aware moment)
  conversionResult .null (aware.inFixed? clock.offset (some clock.name))

/-- The conversion from one clock to another one in a single call; each of them is given by the name of
a zone, or it is the local clock. -/
def direct (clock : LocalClock) (date : Value) :
    Option Value → Option Value → Except ConversionError Moment
  | some source, some target => convert date source target
  | some source, none => toLocal clock date source
  | none, some target => fromLocal clock date target
  | none, none => onLocalClock clock date

/-- A call of one of the three conversions, with the names of its zones. -/
inductive Conversion
  | between (source target : Value)
  | fromLocal (target : Value)
  | toLocal (source : Value)

namespace Conversion

/-- The zone in which a call reads naive dates; the local clock has none. -/
def source : Conversion → Option Value
  | .between source _ => some source
  | .fromLocal _ => none
  | .toLocal source => some source

/-- The zone on whose clock a call puts a date; the local clock has none. -/
def target : Conversion → Option Value
  | .between _ target => some target
  | .fromLocal target => some target
  | .toLocal _ => none

/-- The result of a call. -/
def run (clock : LocalClock) (date : Value) : Conversion → Except ConversionError Moment
  | .between source target => convert date source target
  | .fromLocal target => Time.fromLocal clock date target
  | .toLocal source => Time.toLocal clock date source

/-- A call of one of the three conversions is a direct conversion between its two clocks. -/
theorem run_eq_direct (clock : LocalClock) (date : Value) (conversion : Conversion) :
    conversion.run clock date = direct clock date conversion.source conversion.target := by
  cases conversion <;> rfl

end Conversion

/-- The result of calls after each other, each of them fed what the one before returned. -/
def runAll (clock : LocalClock) (date : Value) (first : Conversion) :
    List Conversion → Except ConversionError Moment
  | [] => first.run clock date
  | next :: rest => do
    let moment ← first.run clock date
    runAll clock (.moment moment) next rest

/-! ## The two halves of a conversion -/

namespace LocalClock

/-- A moment as a conversion reads it: a naive one on the clock of a zone, or on the local clock. -/
def readOn (clock : LocalClock) (moment : Moment) : Option Value → Except ConversionError Moment
  | some name => (conversionZone name).map fun zone => moment.orOnClock (.zoned zone)
  | none => conversionResult .null (clock.aware moment)

/-- A moment as a conversion shows it: on the clock of a zone, or on the local clock. -/
def showOn (clock : LocalClock) (moment : Moment) : Option Value → Except ConversionError Moment
  | some name => do
    let zone ← conversionZone name
    conversionResult name (moment.inZone? zone)
  | none => conversionResult .null (moment.inFixed? clock.offset (some clock.name))

/-- A moment is what a clock shows when clocks set to universal time show `utc`. -/
def Tells (clock : LocalClock) (target : Option Value) (utc : Wall) (moment : Moment) : Prop :=
  match target with
  | some name => ∃ zone, zoneOf name = .ok zone ∧ zone.Tells utc moment
  | none => Moment.ofUtcFixed? utc clock.offset (some clock.name) = .ok moment

end LocalClock

/-- A conversion from local time reads the date on the local clock and shows it in the target zone.
-/
theorem fromLocal_eq_ok_iff {clock : LocalClock} {date target : Value} {result : Moment} :
    fromLocal clock date target = .ok result ↔
      ∃ moment aware zone, dateOf date = .ok moment ∧ clock.aware moment = .ok aware ∧
        zoneOf target = .ok zone ∧ aware.inZone? zone = .ok result := by
  have hStep : ∀ (moment : Moment) (zone : Zone), (do
      let aware ← if moment.isNaive then clock.read moment else pure moment
      aware.inZone? zone) = clock.aware moment >>= fun aware => aware.inZone? zone := by
    intro moment zone
    unfold LocalClock.aware
    cases moment.isNaive <;> rfl
  simp only [fromLocal, hStep, bind_eq_ok, conversionZone_eq_ok, conversionResult_eq_ok]
  constructor
  · rintro ⟨moment, hDate, zone, hZone, aware, hAware, h⟩
    exact ⟨moment, aware, zone, hDate, hAware, hZone, h⟩
  · rintro ⟨moment, aware, zone, hDate, hAware, hZone, h⟩
    exact ⟨moment, hDate, zone, hZone, aware, hAware, h⟩

/-- A conversion to local time reads the date in the source zone and shows it on the local clock. -/
theorem toLocal_eq_ok_iff {clock : LocalClock} {date source : Value} {result : Moment} :
    toLocal clock date source = .ok result ↔
      ∃ moment home, dateOf date = .ok moment ∧ zoneOf source = .ok home ∧
        (moment.orOnClock (.zoned home)).inFixed? clock.offset (some clock.name) = .ok result := by
  simp only [toLocal, bind_eq_ok, conversionZone_eq_ok, conversionResult_eq_ok]
  constructor
  · rintro ⟨moment, hDate, home, hHome, h⟩
    exact ⟨moment, home, hDate, hHome, h⟩
  · rintro ⟨moment, home, hDate, hHome, h⟩
    exact ⟨moment, hDate, home, hHome, h⟩

namespace LocalClock

variable {clock : LocalClock} {moment result : Moment} {name : Value}

/-- In a zone a moment is read on the clock of that zone. -/
theorem readOn_some_eq_ok_iff :
    clock.readOn moment (some name) = .ok result ↔
      ∃ zone, zoneOf name = .ok zone ∧ moment.orOnClock (.zoned zone) = result := by
  simp only [readOn, map_eq_ok, conversionZone_eq_ok]

/-- Without a zone a moment is read on the local clock. -/
theorem readOn_none_eq_ok_iff :
    clock.readOn moment none = .ok result ↔ clock.aware moment = .ok result :=
  conversionResult_eq_ok

/-- In a zone a moment is shown on the clock of that zone. -/
theorem showOn_some_eq_ok_iff :
    clock.showOn moment (some name) = .ok result ↔
      ∃ zone, zoneOf name = .ok zone ∧ moment.inZone? zone = .ok result := by
  simp only [showOn, bind_eq_ok, conversionZone_eq_ok, conversionResult_eq_ok]

/-- Without a zone a moment is shown on the local clock. -/
theorem showOn_none_eq_ok_iff :
    clock.showOn moment none = .ok result ↔
      moment.inFixed? clock.offset (some clock.name) = .ok result :=
  conversionResult_eq_ok

end LocalClock

/-- A conversion reads a date and shows it. -/
theorem direct_eq_ok_iff {clock : LocalClock} {date : Value} {source target : Option Value}
    {result : Moment} :
    direct clock date source target = .ok result ↔
      ∃ moment aware, dateOf date = .ok moment ∧ clock.readOn moment source = .ok aware ∧
        clock.showOn aware target = .ok result := by
  cases source with
  | some source =>
    cases target with
    | some target =>
      simp only [direct, convert_eq_ok_iff, LocalClock.readOn_some_eq_ok_iff,
        LocalClock.showOn_some_eq_ok_iff]
      constructor
      · rintro ⟨moment, home, zone, hDate, hHome, hZone, h⟩
        exact ⟨moment, _, hDate, ⟨home, hHome, rfl⟩, zone, hZone, h⟩
      · rintro ⟨moment, _, hDate, ⟨home, hHome, rfl⟩, zone, hZone, h⟩
        exact ⟨moment, home, zone, hDate, hHome, hZone, h⟩
    | none =>
      simp only [direct, toLocal_eq_ok_iff, LocalClock.readOn_some_eq_ok_iff,
        LocalClock.showOn_none_eq_ok_iff]
      constructor
      · rintro ⟨moment, home, hDate, hHome, h⟩
        exact ⟨moment, _, hDate, ⟨home, hHome, rfl⟩, h⟩
      · rintro ⟨moment, _, hDate, ⟨home, hHome, rfl⟩, h⟩
        exact ⟨moment, home, hDate, hHome, h⟩
  | none =>
    cases target with
    | some target =>
      simp only [direct, fromLocal_eq_ok_iff, LocalClock.readOn_none_eq_ok_iff,
        LocalClock.showOn_some_eq_ok_iff]
      constructor
      · rintro ⟨moment, aware, zone, hDate, hAware, hZone, h⟩
        exact ⟨moment, aware, hDate, hAware, zone, hZone, h⟩
      · rintro ⟨moment, aware, hDate, hAware, zone, hZone, h⟩
        exact ⟨moment, aware, zone, hDate, hAware, hZone, h⟩
    | none =>
      simp only [direct, onLocalClock, bind_eq_ok, conversionResult_eq_ok,
        LocalClock.readOn_none_eq_ok_iff, LocalClock.showOn_none_eq_ok_iff]
      constructor
      · rintro ⟨moment, hDate, aware, hAware, h⟩
        exact ⟨moment, aware, hDate, hAware, h⟩
      · rintro ⟨moment, aware, hDate, hAware, h⟩
        exact ⟨moment, hDate, aware, hAware, h⟩

/-! ## Sound moments -/

namespace Moment

/-- The clock of the zone that a moment is in shows its reading, as far as its instant is in the
calendar. -/
def IsShown (moment : Moment) : Prop :=
  ∀ (zone : Zone) (utc : Wall), moment.clock = .zoned zone →
    moment.instant? = some (utc.count : Int) → zone.Shows moment.wall

/-- A moment has an instant, and a known clock shows its reading. -/
structure IsSound (moment : Moment) : Prop where
  aware : moment.isNaive = false
  known : moment.clock.IsKnown
  shown : moment.IsShown

/-- Two moments have the same reading and the same offset. -/
structure Alike (moment other : Moment) : Prop where
  wall : moment.wall = other.wall
  offset : moment.offset? = other.offset?

theorem Alike.refl (moment : Moment) : moment.Alike moment :=
  ⟨rfl, rfl⟩

/-- Moments that are like the same moment are like one another. -/
theorem Alike.trans {moment other third : Moment} (h : moment.Alike other)
    (hOther : other.Alike third) : moment.Alike third :=
  ⟨h.wall.trans hOther.wall, h.offset.trans hOther.offset⟩

variable {moment result : Moment} {utc : Wall} {offset : Int} {name : Option String}

/-- An instant is shown at a fixed offset by shifting its reading. -/
theorem ofUtcFixed?_eq_ok_iff :
    ofUtcFixed? utc offset name = .ok result ↔
      ∃ wall, utc.shift? offset = some wall ∧ result = ⟨wall, .fixed offset name, .first⟩ := by
  unfold ofUtcFixed?
  cases utc.shift? offset with
  | none => simp
  | some wall => simp [eq_comm]

/-- An aware moment is shown at a fixed offset by way of its instant. -/
theorem inFixed?_eq_ok_iff (hAware : moment.isNaive = false) :
    moment.inFixed? offset name = .ok result ↔
      ∃ utc : Wall, moment.instant? = some (utc.count : Int) ∧
        ofUtcFixed? utc offset name = .ok result := by
  simp only [inFixed?, bind_eq_ok, utc?_eq_ok_iff_of_aware hAware]

/-- A moment at a fixed offset is sound, as its clock is no zone. -/
theorem isSound_of_fixed (h : moment.clock = .fixed offset name) : moment.IsSound where
  aware := by simp [isNaive, h]
  known := by
    intro zone hZone
    rw [h] at hZone
    cases hZone
  shown := by
    intro zone utc hZone
    rw [h] at hZone
    cases hZone

end Moment

/-- What the clocks of a known zone show is sound. -/
theorem Zone.Tells.isSound {zone : Zone} {utc : Wall} {moment : Moment} (h : zone.Tells utc moment)
    (hZone : zone ∈ Zone.all) : moment.IsSound where
  aware := Moment.isNaive_of_zoned h.clock
  known := by
    intro own hOwn
    rw [h.clock] at hOwn
    obtain rfl := Clock.zoned.inj hOwn
    exact hZone
  shown := by
    intro own other hOwn _
    rw [h.clock] at hOwn
    obtain rfl := Clock.zoned.inj hOwn
    exact ⟨utc, h.wall⟩

namespace LocalClock

variable {clock : LocalClock} {source target : Option Value} {moment aware other result : Moment}
  {utc : Wall}

/-- What a clock shows at an instant is sound. -/
theorem Tells.isSound (h : clock.Tells target utc moment) : moment.IsSound := by
  cases target with
  | some name =>
    obtain ⟨zone, hZone, hTells⟩ := h
    exact hTells.isSound (mem_all_of_zoneOf hZone)
  | none =>
    obtain ⟨wall, -, rfl⟩ := Moment.ofUtcFixed?_eq_ok_iff.1 h
    exact Moment.isSound_of_fixed rfl

/-- A moment that a clock tells at some instant is the moment of that instant. -/
theorem Tells.instant? (h : clock.Tells target utc moment) :
    moment.instant? = some (utc.count : Int) := by
  cases target with
  | some name =>
    obtain ⟨zone, -, hTells⟩ := h
    exact hTells.instant?
  | none =>
    obtain ⟨wall, hWall, rfl⟩ := Moment.ofUtcFixed?_eq_ok_iff.1 h
    have hCount := Wall.shift?_eq_some_iff.1 hWall
    show some ((wall.count : Int) - clock.offset) = some (utc.count : Int)
    rw [hCount, Int.add_sub_cancel]

/-- A clock shows one reading with one offset at an instant. -/
theorem Tells.alike (h : clock.Tells target utc moment) (hOther : clock.Tells target utc other) :
    moment.Alike other := by
  cases target with
  | some name =>
    obtain ⟨zone, hZone, hTells⟩ := h
    obtain ⟨same, hSame, hTellsOther⟩ := hOther
    obtain rfl : same = zone := Except.ok.inj (hSame.symm.trans hZone)
    exact ⟨Option.some.inj (hTells.wall.symm.trans hTellsOther.wall),
      hTells.offset.trans hTellsOther.offset.symm⟩
  | none =>
    obtain rfl := Except.ok.inj (Eq.trans (Eq.symm h) hOther)
    exact .refl moment

/-- What the local clock reads is at the fixed offset of that clock. -/
theorem clock_of_read (h : clock.read moment = .ok aware) :
    aware.clock = .fixed clock.offset (some clock.name) := by
  unfold LocalClock.read at h
  generalize (if moment.pass = .first then -(day : Int) else day) = probe at h
  dsimp only at h
  split at h
  · obtain ⟨utc, -, hAware⟩ := bind_eq_ok.1 h
    obtain ⟨wall, -, rfl⟩ := Moment.ofUtcFixed?_eq_ok_iff.1 hAware
    rfl
  · cases h

/-- What a conversion reads is sound, if the clocks show it. -/
theorem isSound_of_readOn (hKnown : moment.clock.IsKnown)
    (h : clock.readOn moment source = .ok aware) (hShown : aware.IsShown) : aware.IsSound := by
  cases source with
  | some name =>
    obtain ⟨zone, hZone, rfl⟩ := readOn_some_eq_ok_iff.1 h
    exact ⟨moment.isNaive_orOnClock zone, hKnown.orOnClock (mem_all_of_zoneOf hZone), hShown⟩
  | none =>
    have hRead := readOn_none_eq_ok_iff.1 h
    unfold LocalClock.aware at hRead
    split at hRead
    · exact Moment.isSound_of_fixed (clock_of_read hRead)
    · next hAware =>
      obtain rfl := Except.ok.inj hRead
      exact ⟨Bool.eq_false_iff.2 hAware, hKnown, hShown⟩

/-- What is read on the clock of a zone has the reading of the date. -/
theorem wall_of_readOn {zone : Zone} (h : clock.readOn moment source = .ok aware)
    (hClock : aware.clock = .zoned zone) : aware.wall = moment.wall := by
  cases source with
  | some name =>
    obtain ⟨home, -, rfl⟩ := readOn_some_eq_ok_iff.1 h
    unfold Moment.orOnClock
    split <;> rfl
  | none =>
    have hRead := readOn_none_eq_ok_iff.1 h
    unfold LocalClock.aware at hRead
    split at hRead
    · rw [clock_of_read hRead] at hClock
      cases hClock
    · rw [Except.ok.inj hRead]

/-- Moments that are not naive are read as they are. -/
theorem readOn_of_aware (hAware : moment.isNaive = false)
    (h : clock.readOn moment source = .ok aware) : aware = moment := by
  cases source with
  | some name =>
    obtain ⟨zone, -, rfl⟩ := readOn_some_eq_ok_iff.1 h
    exact Moment.orOnClock_of_aware hAware _
  | none =>
    have hRead := readOn_none_eq_ok_iff.1 h
    rw [LocalClock.aware, hAware, if_neg Bool.false_ne_true] at hRead
    exact (Except.ok.inj hRead).symm

/-- A sound moment is shown on a clock in two ways: it is what the clock tells at its instant, or its
instant is out of the calendar and it is left alone. -/
theorem tells_of_showOn (hSound : aware.IsSound) (h : clock.showOn aware target = .ok result) :
    (∃ utc : Wall, aware.instant? = some (utc.count : Int) ∧ clock.Tells target utc result) ∨
      ((∀ utc : Wall, aware.instant? ≠ some (utc.count : Int)) ∧ result = aware) := by
  cases target with
  | none =>
    left
    exact (Moment.inFixed?_eq_ok_iff hSound.aware).1 (showOn_none_eq_ok_iff.1 h)
  | some name =>
    obtain ⟨zone, hName, hResult⟩ := showOn_some_eq_ok_iff.1 h
    have hMember := mem_all_of_zoneOf hName
    rcases Moment.inZone?_eq_ok hSound.aware hSound.known hMember hResult with
      ⟨hClock, rfl⟩ | ⟨-, utc, hInstant, hTells⟩
    -- a moment in the zone itself is returned without a look at its instant, inside of the calendar
    -- or not
    · by_cases hInside : ∃ utc : Wall, result.instant? = some (utc.count : Int)
      · left
        obtain ⟨utc, hInstant⟩ := hInside
        refine ⟨utc, hInstant, zone, hName, ?_⟩
        exact (Moment.tells_iff_shows (Zone.steady_of_mem_all hMember) hClock hInstant).2
          (hSound.shown zone utc hClock hInstant)
      · right
        exact ⟨fun utc hInstant => hInside ⟨utc, hInstant⟩, rfl⟩
    · left
      exact ⟨utc, hInstant, zone, hName, hTells⟩

/-- Whatever a clock tells at the instant of a sound moment, the moment can be shown on it. -/
theorem exists_showOn (hSound : aware.IsSound) (hInstant : aware.instant? = some (utc.count : Int))
    (h : clock.Tells target utc other) : ∃ result, clock.showOn aware target = .ok result := by
  cases target with
  | none =>
    refine ⟨other, showOn_none_eq_ok_iff.2 ?_⟩
    exact (Moment.inFixed?_eq_ok_iff hSound.aware).2 ⟨utc, hInstant, h⟩
  | some name =>
    obtain ⟨zone, hName, hTells⟩ := h
    suffices hShown : ∃ result, aware.inZone? zone = .ok result by
      obtain ⟨result, hResult⟩ := hShown
      exact ⟨result, showOn_some_eq_ok_iff.2 ⟨zone, hName, hResult⟩⟩
    unfold Moment.inZone?
    by_cases hIsIn : aware.isIn zone = true
    · exact ⟨aware, if_pos hIsIn⟩
    · have hUtc := (Moment.utc?_eq_ok_iff_of_aware hSound.aware).2 hInstant
      refine ⟨⟨other.wall, .zoned zone, zone.passAt utc other.wall⟩, ?_⟩
      rw [if_neg hIsIn]
      refine bind_eq_ok.2 ⟨utc, hUtc, ?_⟩
      rw [Moment.ofUtcZone?, hTells.wall]

/-- What a sound moment is shown as is sound. -/
theorem isSound_of_showOn (hSound : aware.IsSound) (h : clock.showOn aware target = .ok result) :
    result.IsSound := by
  rcases tells_of_showOn hSound h with ⟨utc, -, hTells⟩ | ⟨-, rfl⟩
  · exact hTells.isSound
  · exact hSound

/-- **Two conversions are one.** What a sound moment is shown as on one clock and then on another one
is what it is shown as on the other clock at once. -/
theorem exists_showOn_of_showOn {last : Option Value} (hSound : aware.IsSound)
    (h : clock.showOn aware target = .ok moment) (hLast : clock.showOn moment last = .ok result) :
    ∃ once, clock.showOn aware last = .ok once ∧ result.Alike once := by
  rcases tells_of_showOn hSound h with ⟨utc, hInstant, hTells⟩ | ⟨-, rfl⟩
  · rcases tells_of_showOn hTells.isSound hLast with ⟨same, hSame, hResult⟩ | ⟨hOutside, -⟩
    · obtain rfl : same = utc := by
        rw [hTells.instant?, Option.some.injEq, Int.ofNat_inj] at hSame
        exact (Wall.eq_of_count_eq hSame).symm
      obtain ⟨once, hOnce⟩ := exists_showOn hSound hInstant hResult
      refine ⟨once, hOnce, ?_⟩
      rcases tells_of_showOn hSound hOnce with ⟨own, hOwn, hTold⟩ | ⟨hOutside, -⟩
      · rw [hInstant, Option.some.injEq, Int.ofNat_inj] at hOwn
        obtain rfl := Wall.eq_of_count_eq hOwn
        exact hResult.alike hTold
      · exact absurd hInstant (hOutside _)
    · exact absurd hTells.instant? (hOutside utc)
  · exact ⟨result, hLast, .refl result⟩

end LocalClock

/-! ## Chains -/

/-- A chain of conversions converts directly at first and goes on with the result. -/
theorem runAll_cons_eq_ok_iff {clock : LocalClock} {date : Value} {first next : Conversion}
    {rest : List Conversion} {result : Moment} :
    runAll clock date first (next :: rest) = .ok result ↔
      ∃ moment, direct clock date first.source first.target = .ok moment ∧
        runAll clock (.moment moment) next rest = .ok result := by
  rw [runAll, bind_eq_ok, Conversion.run_eq_direct]

/-- What a chain makes of a date that it reads as a sound moment is what the moment is shown as on the
last clock. -/
theorem exists_showOn_of_runAll {clock : LocalClock} {date : Value} {first : Conversion}
    {rest : List Conversion} {moment result : Moment} (hDate : dateOf date = .ok moment)
    (h : runAll clock date first rest = .ok result) :
    ∃ aware, clock.readOn moment first.source = .ok aware ∧
      (aware.IsSound → ∃ once, clock.showOn aware (rest.getLastD first).target = .ok once ∧
        result.Alike once) := by
  induction rest generalizing date first moment with
  | nil =>
    rw [runAll, Conversion.run_eq_direct] at h
    obtain ⟨own, aware, hOwn, hRead, hShow⟩ := direct_eq_ok_iff.1 h
    obtain rfl : own = moment := Except.ok.inj (hOwn.symm.trans hDate)
    exact ⟨aware, hRead, fun _ => ⟨result, hShow, .refl result⟩⟩
  | cons next rest ih =>
    obtain ⟨shown, hDirect, hRest⟩ := runAll_cons_eq_ok_iff.1 h
    obtain ⟨own, aware, hOwn, hRead, hShow⟩ := direct_eq_ok_iff.1 hDirect
    obtain rfl : own = moment := Except.ok.inj (hOwn.symm.trans hDate)
    refine ⟨aware, hRead, fun hSound => ?_⟩
    have hShown := LocalClock.isSound_of_showOn hSound hShow
    -- what the first call returned is read as it is, so that the calls after it are a chain from it
    have hDateOf : dateOf (.moment shown) = .ok shown := rfl
    obtain ⟨again, hAgain, hLater⟩ := ih hDateOf hRest
    obtain rfl := LocalClock.readOn_of_aware hShown.aware hAgain
    obtain ⟨late, hLate, hAlike⟩ := hLater hShown
    obtain ⟨once, hOnce, hOther⟩ := LocalClock.exists_showOn_of_showOn hSound hShow hLate
    rw [List.getLastD_cons]
    exact ⟨once, hOnce, hAlike.trans hOther⟩

/-- **Detours do not matter.** When all calls of a chain of conversions return, the last of them shows
the reading and the offset that a single conversion to its clock shows which reads the date as the first
of them does, provided that the date, as it is read, has a reading that its zone shows.  If the last
clock is the one on which the date is read, that is the reading and the offset from which the chain
started. -/
theorem runAll_eq_direct {clock : LocalClock} {date : Value} {first : Conversion}
    {rest : List Conversion} {moment aware result : Moment} (hDate : dateOf date = .ok moment)
    (hKnown : moment.clock.IsKnown) (hRead : clock.readOn moment first.source = .ok aware)
    (hShown : aware.IsShown) (h : runAll clock date first rest = .ok result) :
    (∀ source, clock.readOn moment source = .ok aware →
        ∃ once, direct clock date source (rest.getLastD first).target = .ok once ∧
          result.Alike once) ∧
      ∀ name zone, (rest.getLastD first).target = some name → zoneOf name = .ok zone →
        aware.clock = .zoned zone → result.Alike aware ∧ result.wall = moment.wall := by
  have hSound := LocalClock.isSound_of_readOn hKnown hRead hShown
  obtain ⟨own, hOwn, hChain⟩ := exists_showOn_of_runAll hDate h
  obtain rfl : own = aware := Except.ok.inj (hOwn.symm.trans hRead)
  obtain ⟨once, hOnce, hAlike⟩ := hChain hSound
  constructor
  · intro source hSource
    exact ⟨once, direct_eq_ok_iff.2 ⟨moment, own, hDate, hSource, hOnce⟩, hAlike⟩
  · intro name zone hLast hZone hClock
    rw [hLast] at hOnce
    obtain ⟨same, hSame, hStays⟩ := LocalClock.showOn_some_eq_ok_iff.1 hOnce
    obtain rfl : same = zone := Except.ok.inj (hSame.symm.trans hZone)
    have hIsIn := (Moment.isIn_iff hSound.known (mem_all_of_zoneOf hZone)).2 hClock
    rw [Moment.inZone?, if_pos hIsIn] at hStays
    obtain rfl := Except.ok.inj hStays
    exact ⟨hAlike, hAlike.wall.trans (LocalClock.wall_of_readOn hRead hClock)⟩

/-- The second half past two of 27 October 2024, as a naive moment. -/
def repeatedHalfPastTwo : Moment := ⟨fallBackHalfPastTwo, .naive, .second⟩

/-- The second half past two of 27 October 2024 on the clocks of Paris. -/
def repeatedInParis : Moment := ⟨fallBackHalfPastTwo, .zoned Atlas.paris, .second⟩

/-- The local clock of a place in India. -/
def indianClock : LocalClock := ⟨19800000000, "IST"⟩

/-- The rest of a way from a local clock through Tokyo to Paris. -/
def byTokyo : List Conversion :=
  [.between (.text "UTC") (.text "Asia/Tokyo"), .fromLocal (.text "Europe/Paris")]

/-- The detour by way of Tokyo ends on the second half past two again. -/
theorem runAll_byTokyo :
    runAll indianClock (.moment repeatedHalfPastTwo) (.toLocal (.text "Europe/Paris")) byTokyo =
      .ok repeatedInParis :=
  rfl

/-- The detour by way of Tokyo loses neither the instant nor the pass. -/
theorem runAll_eq_direct_byTokyo :
    dateOf (.moment repeatedHalfPastTwo) = .ok repeatedHalfPastTwo ∧
      repeatedHalfPastTwo.clock.IsKnown ∧
      indianClock.readOn repeatedHalfPastTwo (some (.text "Europe/Paris")) =
        .ok repeatedInParis ∧
      repeatedInParis.IsShown ∧
      runAll indianClock (.moment repeatedHalfPastTwo) (.toLocal (.text "Europe/Paris"))
        byTokyo = .ok repeatedInParis ∧
      (∃ once, convert (.moment repeatedHalfPastTwo) (.text "Europe/Paris")
        (.text "Europe/Paris") = .ok once ∧ repeatedInParis.Alike once) ∧
      repeatedInParis.wall = repeatedHalfPastTwo.wall := by
  have hDate : dateOf (.moment repeatedHalfPastTwo) = .ok repeatedHalfPastTwo := rfl
  have hKnown : repeatedHalfPastTwo.clock.IsKnown := by
    intro zone hZone
    cases hZone
  have hZone : zoneOf (.text "Europe/Paris") = .ok Atlas.paris :=
    zoneOf_text_eq_ok.2 (by decide +kernel)
  have hRead : indianClock.readOn repeatedHalfPastTwo (some (.text "Europe/Paris")) =
      .ok repeatedInParis :=
    LocalClock.readOn_some_eq_ok_iff.2 ⟨Atlas.paris, hZone, rfl⟩
  have hShown : repeatedInParis.IsShown := by
    intro zone utc hClock _
    obtain rfl := Clock.zoned.inj hClock
    have hWall : Atlas.paris.wallAt? fallBackHalfPastOne = some fallBackHalfPastTwo := by
      decide +kernel
    exact ⟨fallBackHalfPastOne, hWall⟩
  obtain ⟨hOnce, hBack⟩ := runAll_eq_direct hDate hKnown hRead hShown runAll_byTokyo
  exact ⟨hDate, hKnown, hRead, hShown, runAll_byTokyo, hOnce _ hRead, (hBack _ _ rfl hZone rfl).2⟩

end Crontab.Time
