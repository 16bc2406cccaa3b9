import Crontab.Proofs.Schedule.Grammar
import Crontab.Proofs.Schedule.Search
import Crontab.Proofs.Time.FirstPass
import Crontab.Schedule.Listing

/-!
# Readings that match a listing

A reading matches a listing if every one of its five parts is listed.  For listings with values of
the fields only this is what the search looks for.

* `Listing.InRange`, `Listing.Matches` — listings with the values of every field, and the readings
  that match them;
* `Schedule.inRange_listing` — what was read from an expression is such a listing;
* `Listing.exists_schedule` — the schedule of such a listing;
* `Schedule.fits_iff_matches` — the search looks for the readings that match.
-/

namespace Crontab

open Time Text

/-- The integers that a field admits are natural numbers between its bounds. -/
theorem Field.bounds_of_admits {field : Field} {n : Int} (h : field.admits n = true) :
    0 ≤ n ∧ field.least ≤ n.toNat ∧ n.toNat ≤ field.greatest := by
  simp only [Field.admits, Bool.and_eq_true, decide_eq_true_eq] at h
  omega

namespace Listing

/-- Something is listed for every field, and only values of the field. -/
def InRange (listing : Listing) : Prop :=
  ∀ field, listing.valuesOf field ≠ [] ∧ ∀ n ∈ listing.valuesOf field, field.admits n = true

/-- The parts of a reading are listed. -/
structure Matches (listing : Listing) (wall : Wall) : Prop where
  minute : (wall.minute : Int) ∈ listing.minute
  hour : (wall.hour : Int) ∈ listing.hour
  dayOfMonth : (wall.date.day : Int) ∈ listing.dayOfMonth
  month : (wall.date.month : Int) ∈ listing.month
  dayOfWeek : (weekday wall.dayNumber : Int) ∈ listing.dayOfWeek

end Listing

/-! ## Schedules read from expressions -/

/-- What is read from a word of a field is what the field is parsed as. -/
theorem Field.parse_of_parseWord {field : Field} {word : List Char} {values : List Nat}
    (h : field.parseWord word = .ok values) : field.parse word = .ok values := by
  unfold Field.parseWord at h
  split at h
  · next parsed hParse =>
    obtain rfl := Except.ok.inj h
    exact hParse
  · cases h
  · cases h

/-- The values read from a word are within the bounds of the field, and there are some. -/
theorem Field.parseWord_values {field : Field} {word : List Char} {values : List Nat}
    (h : field.parseWord word = .ok values) :
    values ≠ [] ∧ ∀ n ∈ values, field.least ≤ n ∧ n ≤ field.greatest :=
  Field.parse_values (Field.parse_of_parseWord h)

/-- What was read from an expression lists values of every field, and nothing else. -/
theorem Schedule.inRange_listing {expression : String} {schedule : Schedule}
    (h : Schedule.parse expression = .ok schedule) : schedule.listing.InRange := by
  suffices hValues : ∀ field, schedule.valuesOf field ≠ [] ∧
      ∀ n ∈ schedule.valuesOf field, field.least ≤ n ∧ n ≤ field.greatest by
    intro field
    obtain ⟨hNe, hBounds⟩ := hValues field
    rw [Listing.valuesOf_listing]
    refine ⟨by simpa using hNe, fun n hn => ?_⟩
    obtain ⟨m, hm, rfl⟩ := List.mem_map.1 hn
    have := hBounds m hm
    simp only [Field.admits, Bool.and_eq_true, decide_eq_true_eq, Int.ofNat_eq_natCast]
    omega
  unfold Schedule.parse Schedule.parseChars at h
  split at h
  · next minute hour dayOfMonth month dayOfWeek hWords =>
    simp only [bind_eq_ok] at h
    obtain ⟨_, hMinute, _, hHour, _, hDayOfMonth, _, hMonth, _, hDayOfWeek, h⟩ := h
    obtain rfl := Except.ok.inj h
    intro field
    cases field with
    | minute => exact Field.parseWord_values hMinute
    | hour => exact Field.parseWord_values hHour
    | dayOfMonth => exact Field.parseWord_values hDayOfMonth
    | month => exact Field.parseWord_values hMonth
    | dayOfWeek => exact Field.parseWord_values hDayOfWeek
  · cases h

/-! ## The schedule of a listing -/

namespace Listing

/-- An integer that a field admits is taken as that number. -/
theorem valueOf_eq_ok {field : Field} {n : Int} (h : field.admits n = true) :
    valueOf field n = .ok n.toNat := by
  obtain ⟨hSign, -, hGreatest⟩ := Field.bounds_of_admits h
  have hMeant : ¬(field = .dayOfWeek ∧ n = 7) := by
    rintro ⟨rfl, rfl⟩
    exact absurd hGreatest (by decide)
  unfold valueOf
  simp only [if_neg hMeant, if_neg (Int.not_lt.2 hSign), if_pos h]

/-- Integers that a field admits are taken as these numbers. -/
theorem fieldValues_eq_ok {field : Field} {values : List Int}
    (h : ∀ n ∈ values, field.admits n = true) :
    fieldValues field values = .ok (values.map Int.toNat) := by
  induction values with
  | nil => rfl
  | cons n rest ih =>
    rw [List.forall_mem_cons] at h
    rw [fieldValues, ih h.2, valueOf_eq_ok h.1]
    rfl

/-- A listing of values of every field is a schedule. -/
theorem exists_schedule {listing : Listing} (h : listing.InRange) :
    ∃ schedule, listing.schedule = .ok schedule ∧
      ∀ field, schedule.valuesOf field = (listing.valuesOf field).map Int.toNat := by
  have hEmpty : ¬(Field.all.any fun field => (listing.valuesOf field).isEmpty) = true := by
    rw [List.any_eq_true]
    rintro ⟨field, -, hField⟩
    exact (h field).1 (List.isEmpty_iff.1 hField)
  refine ⟨⟨listing.minute.map Int.toNat, listing.hour.map Int.toNat,
    listing.dayOfMonth.map Int.toNat, listing.month.map Int.toNat,
    listing.dayOfWeek.map Int.toNat⟩, ?_, fun field => by cases field <;> rfl⟩
  have hMinute : fieldValues .minute listing.minute = _ := fieldValues_eq_ok (h .minute).2
  have hHour : fieldValues .hour listing.hour = _ := fieldValues_eq_ok (h .hour).2
  have hDayOfMonth : fieldValues .dayOfMonth listing.dayOfMonth = _ :=
    fieldValues_eq_ok (h .dayOfMonth).2
  have hMonth : fieldValues .month listing.month = _ := fieldValues_eq_ok (h .month).2
  have hDayOfWeek : fieldValues .dayOfWeek listing.dayOfWeek = _ :=
    fieldValues_eq_ok (h .dayOfWeek).2
  rw [schedule, if_neg hEmpty, hMinute, hHour, hDayOfMonth, hMonth, hDayOfWeek]
  rfl

end Listing

/-! ## What the search looks for -/

/-- A reading of a whole minute, by the number of the minute. -/
theorem Time.Wall.count_eq_of_whole {wall : Wall} (h : wall.count % Time.minute = 0) :
    wall.count = Time.minute * wall.minuteCount :=
  (Nat.mul_div_cancel' (Nat.dvd_of_mod_eq_zero h)).symm

/-- The day of a minute is that of the reading at its beginning. -/
theorem dayOfMinute_eq {minute : Nat} {wall : Wall} (hWall : wall.count = Time.minute * minute) :
    minute / minutesPerDay = wall.dayNumber := by
  unfold Wall.dayNumber minutesPerDay day
  unfold Time.minute at hWall
  omega

namespace Schedule

variable {listing : Listing} {schedule : Schedule}

/-- A schedule has a number in a field exactly when its listing has it. -/
theorem contains_valuesOf_iff (hRange : listing.InRange)
    (hValues : ∀ field, schedule.valuesOf field = (listing.valuesOf field).map Int.toNat)
    (field : Field) (k : Nat) :
    (schedule.valuesOf field).contains k = true ↔ (k : Int) ∈ listing.valuesOf field := by
  rw [hValues, List.contains_iff_mem, List.mem_map]
  constructor
  · rintro ⟨n, hn, rfl⟩
    have hSign := (Field.bounds_of_admits ((hRange field).2 n hn)).1
    rwa [Int.toNat_of_nonneg hSign]
  · intro h
    exact ⟨k, h, Int.toNat_natCast k⟩

/-- A minute fits the schedule of a listing if the reading at its beginning matches the listing. -/
theorem fits_iff_matches (hRange : listing.InRange)
    (hValues : ∀ field, schedule.valuesOf field = (listing.valuesOf field).map Int.toNat)
    {minute : Nat} {wall : Wall} (hWall : wall.count = Time.minute * minute) :
    schedule.fits minute = true ↔ listing.Matches wall := by
  have hDay := dayOfMinute_eq hWall
  have hHour : minute % minutesPerDay / 60 = wall.hour := by
    unfold Wall.hour minutesPerDay Time.hour
    unfold Time.minute at hWall
    omega
  have hMinute : minute % minutesPerDay % 60 = wall.minute := by
    unfold Wall.minute minutesPerDay Time.minute
    unfold Time.minute at hWall
    omega
  have hContains := contains_valuesOf_iff hRange hValues
  simp only [fits, fitsDay, fitsTime, hDay, hHour, hMinute, Bool.and_eq_true]
  constructor
  · rintro ⟨⟨⟨hMonth, hDayOfMonth⟩, hDayOfWeek⟩, hHour, hMinute⟩
    exact ⟨(hContains .minute _).1 hMinute, (hContains .hour _).1 hHour,
      (hContains .dayOfMonth _).1 hDayOfMonth, (hContains .month _).1 hMonth,
      (hContains .dayOfWeek _).1 hDayOfWeek⟩
  · rintro ⟨hMinute, hHour, hDayOfMonth, hMonth, hDayOfWeek⟩
    exact ⟨⟨⟨(hContains .month _).2 hMonth, (hContains .dayOfMonth _).2 hDayOfMonth⟩,
      (hContains .dayOfWeek _).2 hDayOfWeek⟩, (hContains .hour _).2 hHour,
      (hContains .minute _).2 hMinute⟩

end Schedule

end Crontab
