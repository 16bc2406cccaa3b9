import Crontab.Proofs.Time.Timeline

/-!
# The first pass over a reading of a zone's clocks

A zone is regular if its clocks follow one list of changes that lie far enough apart.  Then the
readings that its clocks show come in the order of their first passes.

* `Zone.Follows`, `Zone.Regular` — zones whose clocks follow a list of changes;
* `Zone.firstCount` — the first pass over a reading, in the calendar or not;
* `Zone.Regular.firstCount_le`, `Zone.Regular.wallAt?_first` — the first pass over a reading that is
  shown comes before all others, and the reading is shown there;
* `Zone.Regular.firstCount_strictMono` — the order of first passes is the order of readings;
* `Zone.passAt_eq_second` — a reading that is shown after its first pass is shown in the second one.
-/

namespace Crontab.Time

/-! ## Moving readings -/

namespace Wall

/-- Readings of the same count are the same. -/
theorem eq_of_count_eq {wall other : Wall} (h : wall.count = other.count) : wall = other := by
  cases wall
  cases other
  simpa using h

/-- A count within the calendar is that of a reading. -/
theorem ofCount?_eq_some_iff {count : Int} {wall : Wall} :
    ofCount? count = some wall ↔ (wall.count : Int) = count := by
  have hLt := wall.count_lt
  constructor
  · intro h
    unfold ofCount? at h
    split at h
    · split at h
      · obtain rfl := Option.some.inj h
        simp only
        omega
      · cases h
    · cases h
  · rintro rfl
    have hRange : (wall.count : Int).toNat < dayCount * day := hLt
    have hSign : (0 : Int) ≤ wall.count := Int.natCast_nonneg _
    rw [ofCount?, dif_pos hRange, if_pos hSign]
    rfl

/-- A shifted reading has the shifted count. -/
theorem shift?_eq_some_iff {wall moved : Wall} {span : Int} :
    wall.shift? span = some moved ↔ (moved.count : Int) = wall.count + span :=
  ofCount?_eq_some_iff

/-- The reading of a minute is at the start of that minute. -/
theorem ofMinute?_eq_some_iff {minute : Nat} {wall : Wall} :
    ofMinute? minute = some wall ↔ wall.count = Time.minute * minute := by
  rw [ofMinute?, ofCount?_eq_some_iff]
  exact Int.ofNat_inj

end Wall

namespace Zone

/-- Moving a reading by whole seconds moves its seconds. -/
theorem secondsOf_eq {wall moved : Wall} {type : LocalType}
    (h : (moved.count : Int) = wall.count + type.span) :
    secondsOf moved = secondsOf wall + type.offset := by
  unfold LocalType.span at h
  unfold secondsOf second
  unfold second at h
  omega

/-! ## Regular zones -/

/-- The clocks of a zone follow a list of changes that lie far enough apart. -/
structure Follows (zone : Zone) (changes : List Change) : Prop where
  apart : changes.IsChain Timeline.Apart
  offset_typeAt : ∀ utc : Wall, (zone.typeAt utc).offset =
    Timeline.offsetAt zone.recorded.before changes (secondsOf utc)
  offset_typeOnWall : ∀ wall : Wall, (zone.typeOnWall .first wall).offset =
    Timeline.offsetOnWall zone.recorded.before changes (secondsOf wall)

/-- The clocks of a zone follow some list of changes that lie far enough apart. -/
def Regular (zone : Zone) : Prop :=
  ∃ changes, zone.Follows changes

/-- Whether the clocks of a zone ever show a reading. -/
def Shows (zone : Zone) (wall : Wall) : Prop :=
  ∃ utc, zone.wallAt? utc = some wall

/-- The microseconds of universal time, from the beginning of year 1 on, of the first pass over a
reading. -/
def firstCount (zone : Zone) (wall : Wall) : Int :=
  wall.count - (zone.typeOnWall .first wall).span

/-- The wall clock of a zone is ahead by the offset in force. -/
theorem wallAt?_eq_some_iff {zone : Zone} {utc wall : Wall} :
    zone.wallAt? utc = some wall ↔ (wall.count : Int) = utc.count + (zone.typeAt utc).span :=
  Wall.shift?_eq_some_iff

/-- Read on its first pass, a wall clock stands for the first instant that shows it. -/
theorem utcOf?_first_eq_some_iff {zone : Zone} {utc wall : Wall} :
    zone.utcOf? .first wall = some utc ↔ (utc.count : Int) = zone.firstCount wall :=
  Wall.shift?_eq_some_iff

namespace Regular

variable {zone : Zone}

/-- The first pass over a reading comes no later than any instant at which it is shown. -/
theorem firstCount_le (hZone : zone.Regular) {utc wall : Wall} (h : zone.wallAt? utc = some wall) :
    zone.firstCount wall ≤ utc.count := by
  obtain ⟨changes, hFollows⟩ := hZone
  have hCount := wallAt?_eq_some_iff.1 h
  have hSeconds := secondsOf_eq hCount
  have hFirst := (Timeline.firstPass_spec zone.recorded.before hFollows.apart
    (secondsOf utc)).1
  rw [← hFollows.offset_typeAt, ← hSeconds, Timeline.firstPass, ← hFollows.offset_typeOnWall]
    at hFirst
  unfold firstCount LocalType.span
  unfold LocalType.span at hCount
  have hOffset : (zone.typeAt utc).offset ≤ (zone.typeOnWall .first wall).offset := by omega
  have := Int.mul_le_mul_of_nonneg_right hOffset (Int.natCast_nonneg second)
  omega

/-- A reading that is shown at all is shown at its first pass. -/
theorem wallAt?_first (hZone : zone.Regular) {wall first : Wall} (hShows : zone.Shows wall)
    (hFirst : zone.utcOf? .first wall = some first) : zone.wallAt? first = some wall := by
  obtain ⟨utc, h⟩ := hShows
  obtain ⟨changes, hFollows⟩ := hZone
  have hSeconds := secondsOf_eq (wallAt?_eq_some_iff.1 h)
  have hCount := utcOf?_first_eq_some_iff.1 hFirst
  have hPass := (Timeline.firstPass_spec zone.recorded.before hFollows.apart
    (secondsOf utc)).2
  rw [← hFollows.offset_typeAt, ← hSeconds, Timeline.firstPass, ← hFollows.offset_typeOnWall]
    at hPass
  have hBack : secondsOf first = secondsOf wall - (zone.typeOnWall .first wall).offset := by
    have hMoved : (wall.count : Int) = first.count + (zone.typeOnWall .first wall).span := by
      unfold firstCount at hCount
      omega
    have := secondsOf_eq hMoved
    omega
  rw [← hBack, ← hFollows.offset_typeAt] at hPass
  rw [wallAt?_eq_some_iff, LocalType.span, hPass]
  unfold firstCount LocalType.span at hCount
  omega

/-- **The order of first passes.** Of two readings that are shown, the earlier one has the earlier
first pass. -/
theorem firstCount_strictMono (hZone : zone.Regular) {wall later : Wall} (hWall : zone.Shows wall)
    (hLater : zone.Shows later) (hLt : wall.count < later.count) :
    zone.firstCount wall < zone.firstCount later := by
  obtain ⟨changes, hFollows⟩ := hZone
  have hShown : ∀ {reading : Wall}, zone.Shows reading →
      Timeline.offsetAt zone.recorded.before changes
          (Timeline.firstPass zone.recorded.before changes (secondsOf reading)) =
        Timeline.offsetOnWall zone.recorded.before changes (secondsOf reading) := by
    rintro reading ⟨utc, h⟩
    have hSeconds := secondsOf_eq (wallAt?_eq_some_iff.1 h)
    rw [hSeconds, hFollows.offset_typeAt]
    exact (Timeline.firstPass_spec _ hFollows.apart (secondsOf utc)).2
  unfold firstCount LocalType.span
  rcases Nat.lt_or_ge (wall.count / second) (later.count / second) with hSeconds | hSeconds
  · have hLtSeconds : secondsOf wall < secondsOf later := by
      unfold secondsOf
      omega
    have hPass := Timeline.firstPass_strictMono hFollows.apart hLtSeconds (hShown hWall)
      (hShown hLater)
    rw [Timeline.firstPass, Timeline.firstPass, ← hFollows.offset_typeOnWall,
      ← hFollows.offset_typeOnWall] at hPass
    unfold secondsOf at hPass
    unfold second at hPass hSeconds ⊢
    omega
  · have hSame : secondsOf wall = secondsOf later := by
      have := Nat.div_le_div_right (c := second) (Nat.le_of_lt hLt)
      unfold secondsOf
      omega
    have hOffset : (zone.typeOnWall .first wall).offset = (zone.typeOnWall .first later).offset := by
      rw [hFollows.offset_typeOnWall, hFollows.offset_typeOnWall, hSame]
    rw [hOffset]
    omega

/-- A reading with its first pass after an instant comes after the reading at that instant. -/
theorem count_lt_of_first (hZone : zone.Regular) {utc reading wall first : Wall}
    (hReading : zone.wallAt? utc = some reading) (hShows : zone.Shows wall)
    (hFirst : zone.utcOf? .first wall = some first) (hAfter : utc.count < first.count) :
    reading.count < wall.count := by
  have hCount := utcOf?_first_eq_some_iff.1 hFirst
  have hLe := hZone.firstCount_le hReading
  by_contra hNot
  rcases Nat.eq_or_lt_of_le (Nat.not_lt.1 hNot) with hSame | hLt
  · obtain rfl := Wall.eq_of_count_eq hSame
    omega
  · have := hZone.firstCount_strictMono hShows ⟨utc, hReading⟩ hLt
    omega

/-- The first pass over a reading that is shown is in the calendar if it comes after an instant of
the calendar. -/
theorem exists_utcOf?_first (hZone : zone.Regular) {utc wall : Wall}
    (h : zone.wallAt? utc = some wall) (hSign : 0 ≤ zone.firstCount wall) :
    ∃ first, zone.utcOf? .first wall = some first ∧ first.count ≤ utc.count := by
  have hLe := hZone.firstCount_le h
  have hLt := utc.count_lt
  refine ⟨⟨(zone.firstCount wall).toNat, by omega⟩, utcOf?_first_eq_some_iff.2 ?_, ?_⟩
  · simp only
    omega
  · simp only
    omega

end Regular

/-- A reading that is shown after its first pass is shown in the second one. -/
theorem passAt_eq_second {zone : Zone} {utc wall : Wall} (h : zone.wallAt? utc = some wall)
    (hFirst : zone.firstCount wall < utc.count) : zone.passAt utc wall = .second := by
  have hCount := wallAt?_eq_some_iff.1 h
  rw [passAt, if_neg]
  intro hOffset
  unfold firstCount LocalType.span at hFirst
  unfold LocalType.span at hCount
  rw [hOffset] at hFirst
  omega

end Zone

end Crontab.Time
