import Crontab.Time.Calendar
import Mathlib.Algebra.GroupWithZero.Nat
import Mathlib.Order.Monotone.Basic

/-!
# The calendar counts right

The date of a day number gives back the day number, and its parts are in their ranges.

* `yearOfDay_bounds`, `yearOfDay_eq` — a day lies in the year that is told for it, and in no other;
* `daysBeforeMonth_succ`, `daysBeforeYear_succ` — the lengths of months and years;
* `Date.ofDayNumber_spec`, `Date.isValid_ofDayNumber` — the parts of the date of a day;
* `Date.dayNumber_ofDayNumber`, `Date.ofDayNumber_dayNumber` — the way from day numbers to dates and
  back;
* `exists_isLeap_within` — there is a leap year within eight years.
-/

namespace Crontab.Time

/-! ## Years -/

/-- There are no fewer days before a year than before the one it follows. -/
theorem daysBeforeYear_le_succ (year : Nat) : daysBeforeYear year ≤ daysBeforeYear (year + 1) := by
  simp only [daysBeforeYear, Nat.add_sub_cancel]
  omega

/-- The later a year, the more days come before it. -/
theorem daysBeforeYear_mono : Monotone daysBeforeYear :=
  monotone_nat_of_le_succ daysBeforeYear_le_succ

/-- Years come in cycles of 400, centuries and fours. -/
theorem exists_yearParts (past : Nat) :
    ∃ cycle century quad year, century < 4 ∧ quad < 25 ∧ year < 4 ∧
      past = 400 * cycle + 100 * century + 4 * quad + year :=
  ⟨past / 400, past % 400 / 100, past % 100 / 4, past % 4, by omega, by omega, by omega, by omega⟩

section parts

variable {century quad year : Nat} (cycle : Nat) (hCentury : century < 4) (hQuad : quad < 25)
  (hYear : year < 4)

include hCentury hQuad hYear

/-- The days before a year, counted by spans of 400, 100 and 4 years. -/
theorem daysBeforeYear_parts :
    daysBeforeYear (400 * cycle + 100 * century + 4 * quad + year + 1) =
      146097 * cycle + 36524 * century + 1461 * quad + 365 * year := by
  have hQuads : (400 * cycle + 100 * century + 4 * quad + year) / 4 =
      100 * cycle + 25 * century + quad := by omega
  have hCenturies : (400 * cycle + 100 * century + 4 * quad + year) / 100 =
      4 * cycle + century := by omega
  have hCycles : (400 * cycle + 100 * century + 4 * quad + year) / 400 = cycle := by omega
  simp only [daysBeforeYear, Nat.add_sub_cancel, hQuads, hCenturies, hCycles]
  omega

/-- The last year of each span of four is a leap year, unless it ends a century other than the
fourth. -/
theorem isLeap_parts :
    isLeap (400 * cycle + 100 * century + 4 * quad + year + 1) = true ↔
      year = 3 ∧ (quad = 24 → century = 3) := by
  have hFourth : (400 * cycle + 100 * century + 4 * quad + year + 1) % 4 = 0 ↔ year = 3 := by omega
  have hHundredth : (400 * cycle + 100 * century + 4 * quad + year + 1) % 100 = 0 ↔
      year = 3 ∧ quad = 24 := by omega
  have hLast : (400 * cycle + 100 * century + 4 * quad + year + 1) % 400 = 0 ↔
      year = 3 ∧ quad = 24 ∧ century = 3 := by omega
  simp only [isLeap, Bool.and_eq_true, Bool.or_eq_true, beq_iff_eq, bne_iff_ne, ne_eq, hFourth,
    hHundredth, hLast]
  omega

end parts

/-- The days before a year are close to a multiple of the mean length of a year. -/
theorem daysBeforeYear_succ_bounds (past : Nat) :
    146097 * past ≤ 400 * daysBeforeYear (past + 1) + 591 ∧
      400 * daysBeforeYear (past + 1) ≤ 146097 * past + 288 := by
  obtain ⟨cycle, century, quad, year, hCentury, hQuad, hYear, rfl⟩ := exists_yearParts past
  rw [daysBeforeYear_parts cycle hCentury hQuad hYear]
  omega

/-- **The year of a day.** A day lies in the year that is told for it. -/
theorem yearOfDay_bounds (day : Nat) :
    daysBeforeYear (yearOfDay day) ≤ day ∧ day < daysBeforeYear (yearOfDay day + 1) := by
  have hLow : daysBeforeYear (day * 400 / 146097) ≤ day := by
    have hMono := daysBeforeYear_le_succ (day * 400 / 146097)
    have hBounds := (daysBeforeYear_succ_bounds (day * 400 / 146097)).2
    by_cases hZero : day * 400 / 146097 = 0
    · rw [hZero]
      exact Nat.zero_le _
    · obtain ⟨past, hPast⟩ := Nat.exists_eq_succ_of_ne_zero hZero
      have hPastBounds := (daysBeforeYear_succ_bounds past).2
      rw [hPast, Nat.succ_eq_add_one]
      omega
  have hHigh : day < daysBeforeYear (day * 400 / 146097 + 2 + 1) := by
    have hBounds := (daysBeforeYear_succ_bounds (day * 400 / 146097 + 2)).1
    omega
  -- the guess by the mean length of years is at most two years off
  unfold yearOfDay
  generalize day * 400 / 146097 = guess at hLow hHigh
  simp only
  split
  · next hTwo => exact ⟨hTwo, hHigh⟩
  · next hTwo =>
    split
    · next hOne => exact ⟨hOne, Nat.not_le.1 hTwo⟩
    · next hOne => exact ⟨hLow, Nat.not_le.1 hOne⟩

/-- The year told for a day is the only one that holds the day. -/
theorem yearOfDay_eq {day year : Nat} (hLow : daysBeforeYear year ≤ day)
    (hHigh : day < daysBeforeYear (year + 1)) : yearOfDay day = year := by
  obtain ⟨hLow', hHigh'⟩ := yearOfDay_bounds day
  rcases Nat.lt_trichotomy (yearOfDay day) year with hLt | hEq | hGt
  · have hMono : daysBeforeYear (yearOfDay day + 1) ≤ daysBeforeYear year := daysBeforeYear_mono hLt
    omega
  · exact hEq
  · have hMono : daysBeforeYear (year + 1) ≤ daysBeforeYear (yearOfDay day) := daysBeforeYear_mono hGt
    omega

/-- Years are counted from one. -/
theorem one_le_yearOfDay (day : Nat) : 1 ≤ yearOfDay day := by
  have hHigh := (yearOfDay_bounds day).2
  by_contra hNot
  have hZero : yearOfDay day = 0 := by omega
  rw [hZero] at hHigh
  have hFirst : daysBeforeYear (0 + 1) = 0 := rfl
  omega

/-- Every day of the calendar lies in a year of the calendar. -/
theorem yearOfDay_le_lastYear {day : Nat} (h : day < dayCount) : yearOfDay day ≤ lastYear := by
  by_contra hNot
  have hMono := daysBeforeYear_mono (Nat.lt_of_not_le hNot)
  have hLow := (yearOfDay_bounds day).1
  have hEnd : daysBeforeYear lastYear.succ = dayCount := by decide
  omega

/-! ## Months -/

/-- Every month has between 28 and 31 days. -/
theorem monthLength_bounds (year : Nat) {month : Nat} (hLow : 1 ≤ month) (hHigh : month ≤ 12) :
    28 ≤ monthLength year month ∧ monthLength year month ≤ 31 := by
  have hMonths : ∀ leap : Bool, ∀ month < 13, 1 ≤ month →
      28 ≤ (if month = 0 then 0 else
        [31, if leap then 29 else 28, 31, 30, 31, 30, 31, 31, 30, 31, 30, 31].getD (month - 1) 0) ∧
      (if month = 0 then 0 else
        [31, if leap then 29 else 28, 31, 30, 31, 30, 31, 31, 30, 31, 30, 31].getD (month - 1) 0) ≤
          31 := by
    decide
  exact hMonths (isLeap year) month (by omega) hLow

theorem length_monthLengths (year : Nat) : (monthLengths year).length = 12 := rfl

/-- The length of a month is read off the list of those of the year. -/
theorem monthLength_eq {year month : Nat} (h : month < (monthLengths year).length) :
    monthLength year (month + 1) = (monthLengths year)[month] := by
  rw [monthLength, if_neg (Nat.succ_ne_zero month), Nat.add_sub_cancel]
  exact (List.getElem_eq_getD 0).symm

/-- The days before a month are those of the months before it. -/
theorem daysBeforeMonth_succ (year : Nat) {month : Nat} (hLow : 1 ≤ month) (hHigh : month ≤ 12) :
    daysBeforeMonth year (month + 1) = daysBeforeMonth year month + monthLength year month := by
  obtain ⟨past, rfl⟩ : ∃ past, month = past + 1 := ⟨month - 1, by omega⟩
  have hPast : past < (monthLengths year).length := by
    rw [length_monthLengths]
    omega
  have hTake : (monthLengths year).take (past + 1) =
      (monthLengths year).take past ++ [(monthLengths year)[past]] := by
    rw [List.take_add_one, List.getElem?_eq_getElem hPast, Option.toList_some]
  rw [monthLength_eq hPast, daysBeforeMonth, daysBeforeMonth, Nat.add_sub_cancel,
    Nat.add_sub_cancel, hTake, List.sum_append, List.sum_singleton]

/-- Between two months lie the first one and at least 28 days for each month in between. -/
theorem daysBeforeMonth_add_le (year : Nat) {month later : Nat} (hLow : 1 ≤ month)
    (hLt : month < later) (hHigh : later ≤ 13) :
    daysBeforeMonth year month + monthLength year month + 28 * (later - month - 1) ≤
      daysBeforeMonth year later := by
  induction later, hLt using Nat.le_induction with
  | base =>
    rw [daysBeforeMonth_succ year hLow (by omega)]
    omega
  | succ later hLe ih =>
    have hLength := (monthLength_bounds year (show 1 ≤ later by omega) (by omega)).1
    rw [daysBeforeMonth_succ year (show 1 ≤ later by omega) (by omega)]
    have := ih (by omega)
    omega

/-- No month of any year is longer than the same month of a leap year. -/
theorem monthLength_le_of_isLeap (year : Nat) {leap month : Nat} (h : isLeap leap = true)
    (hMonth : month ≤ 12) : monthLength year month ≤ monthLength leap month := by
  have hMonths : ∀ own other : Bool, other = true → ∀ month < 13,
      (if month = 0 then 0 else
        [31, if own then 29 else 28, 31, 30, 31, 30, 31, 31, 30, 31, 30, 31].getD (month - 1) 0) ≤
      (if month = 0 then 0 else
        [31, if other then 29 else 28, 31, 30, 31, 30, 31, 31, 30, 31, 30, 31].getD (month - 1) 0) := by
    decide
  exact hMonths (isLeap year) (isLeap leap) h month (Nat.lt_succ_of_le hMonth)

/-- Of eight years in a row one is a leap year. -/
theorem exists_isLeap_within (year : Nat) :
    ∃ leap, year < leap ∧ leap ≤ year + 8 ∧ isLeap leap = true := by
  by_cases hCentury : (year / 4 * 4 + 4) % 100 = 0
  · refine ⟨year / 4 * 4 + 8, by omega, by omega, ?_⟩
    simp only [isLeap, Bool.and_eq_true, Bool.or_eq_true, beq_iff_eq, bne_iff_ne]
    omega
  · refine ⟨year / 4 * 4 + 4, by omega, by omega, ?_⟩
    simp only [isLeap, Bool.and_eq_true, Bool.or_eq_true, beq_iff_eq, bne_iff_ne]
    omega

/-- A year has 365 days, and one more if it is a leap year. -/
theorem sum_monthLengths (year : Nat) :
    (monthLengths year).sum = if isLeap year then 366 else 365 := by
  unfold monthLengths
  cases isLeap year <;> rfl

/-- The days of a year are those of its months. -/
theorem daysBeforeYear_succ {year : Nat} (h : 1 ≤ year) :
    daysBeforeYear (year + 1) = daysBeforeYear year + (monthLengths year).sum := by
  obtain ⟨past, rfl⟩ : ∃ past, year = past + 1 := ⟨year - 1, by omega⟩
  obtain ⟨cycle, century, quad, year, hCentury, hQuad, hYear, rfl⟩ := exists_yearParts past
  have hLeap := isLeap_parts cycle hCentury hQuad hYear
  rw [sum_monthLengths, daysBeforeYear_parts cycle hCentury hQuad hYear, if_congr hLeap rfl rfl]
  obtain ⟨cycle', century', quad', year', hCentury', hQuad', hYear', hNext⟩ :=
    exists_yearParts (400 * cycle + 100 * century + 4 * quad + year + 1)
  rw [hNext, daysBeforeYear_parts cycle' hCentury' hQuad' hYear']
  split <;> omega

/-- The months of a year are used up with the days before the thirteenth. -/
theorem daysBeforeMonth_thirteen (year : Nat) :
    daysBeforeMonth year 13 = (monthLengths year).sum := rfl

/-! ## Dates -/

/-- Spending fewer days than there are ends in one of the months. -/
theorem spendDays_spec {lengths : List Nat} {days : Nat} (h : days < lengths.sum) (month : Nat) :
    ∃ past, ∃ hPast : past < lengths.length, (spendDays lengths month days).1 = month + past ∧
      (spendDays lengths month days).2 < lengths[past] ∧
      days = (lengths.take past).sum + (spendDays lengths month days).2 := by
  induction lengths generalizing month days with
  | nil => simp at h
  | cons length lengths ih =>
    by_cases hLt : days < length
    · refine ⟨0, Nat.zero_lt_succ _, ?_⟩
      rw [spendDays, if_pos hLt]
      exact ⟨rfl, hLt, (Nat.zero_add days).symm⟩
    · have hRest : days - length < lengths.sum := by
        rw [List.sum_cons] at h
        omega
      obtain ⟨past, hPast, hMonth, hDay, hDays⟩ := ih hRest (month + 1)
      refine ⟨past + 1, Nat.succ_lt_succ hPast, ?_⟩
      rw [spendDays, if_neg hLt, List.take_succ_cons, List.sum_cons]
      refine ⟨?_, hDay, ?_⟩
      · rw [hMonth]
        omega
      · omega

namespace Date

/-- The parts of the date of a day, and how they add up. -/
theorem ofDayNumber_spec (day : Nat) :
    (ofDayNumber day).year = yearOfDay day ∧ 1 ≤ (ofDayNumber day).month ∧
      (ofDayNumber day).month ≤ 12 ∧ 1 ≤ (ofDayNumber day).day ∧
      (ofDayNumber day).day ≤ monthLength (yearOfDay day) (ofDayNumber day).month ∧
      (ofDayNumber day).dayNumber = day := by
  obtain ⟨hLow, hHigh⟩ := yearOfDay_bounds day
  rw [daysBeforeYear_succ (one_le_yearOfDay day)] at hHigh
  obtain ⟨past, hPast, hMonth, hDay, hDays⟩ :=
    spendDays_spec (show day - daysBeforeYear (yearOfDay day) < (monthLengths (yearOfDay day)).sum by
      omega) 1
  have hTwelve : past < 12 := hPast
  have hMonth' : (ofDayNumber day).month = past + 1 := by
    rw [Nat.add_comm]
    exact hMonth
  have hLength : (ofDayNumber day).day ≤ monthLength (yearOfDay day) (past + 1) := by
    rw [monthLength_eq hPast]
    exact hDay
  have hNumber : (ofDayNumber day).dayNumber =
      daysBeforeYear (yearOfDay day) + daysBeforeMonth (yearOfDay day) (ofDayNumber day).month +
        (spendDays (monthLengths (yearOfDay day)) 1 (day - daysBeforeYear (yearOfDay day))).2 := rfl
  have hBefore : daysBeforeMonth (yearOfDay day) (past + 1) =
      ((monthLengths (yearOfDay day)).take past).sum := rfl
  rw [hNumber, hMonth', hBefore]
  exact ⟨rfl, by omega, by omega, Nat.succ_le_succ (Nat.zero_le _), hLength, by omega⟩

/-- **From day numbers to dates and back.** -/
@[simp]
theorem dayNumber_ofDayNumber (day : Nat) : (ofDayNumber day).dayNumber = day :=
  (ofDayNumber_spec day).2.2.2.2.2

/-- **From dates to day numbers and back.** -/
theorem ofDayNumber_dayNumber {date : Date} (h : date.isValid = true) :
    ofDayNumber date.dayNumber = date := by
  simp only [isValid, Bool.and_eq_true, decide_eq_true_eq] at h
  obtain ⟨⟨⟨⟨⟨hFirst, -⟩, hMonth⟩, hMonth'⟩, hDay⟩, hDay'⟩ := h
  have hNumber : date.dayNumber =
      daysBeforeYear date.year + daysBeforeMonth date.year date.month + (date.day - 1) := rfl
  have hRest := daysBeforeMonth_add_le date.year hMonth (Nat.lt_succ_of_le hMonth') (Nat.le_refl 13)
  rw [daysBeforeMonth_thirteen] at hRest
  have hYear : yearOfDay date.dayNumber = date.year := by
    refine yearOfDay_eq (by omega) ?_
    rw [daysBeforeYear_succ hFirst]
    omega
  obtain ⟨hYearOwn, hOwn, hOwn', hDayOwn, hDayOwn', hSame⟩ := ofDayNumber_spec date.dayNumber
  generalize ofDayNumber date.dayNumber = own at *
  have hOwnNumber : own.dayNumber =
      daysBeforeYear own.year + daysBeforeMonth own.year own.month + (own.day - 1) := rfl
  rw [hYear] at hYearOwn hDayOwn'
  rw [hYearOwn] at hOwnNumber
  -- two months apart, the days of the earlier one are used up
  have hMonths : own.month = date.month := by
    rcases Nat.lt_trichotomy own.month date.month with hLt | hEq | hGt
    · have := daysBeforeMonth_add_le date.year hOwn hLt (by omega)
      omega
    · exact hEq
    · have := daysBeforeMonth_add_le date.year hMonth hGt (by omega)
      omega
  rw [hMonths] at hOwnNumber
  have hDays : own.day = date.day := by omega
  cases own
  cases date
  simp only at hYearOwn hMonths hDays
  rw [hYearOwn, hMonths, hDays]

/-- The date of a day of the calendar is in the calendar. -/
theorem isValid_ofDayNumber {day : Nat} (h : day < dayCount) : (ofDayNumber day).isValid = true := by
  obtain ⟨hYear, hMonth, hMonth', hDay, hDay', -⟩ := ofDayNumber_spec day
  have hFirst := one_le_yearOfDay day
  have hLast := yearOfDay_le_lastYear h
  rw [← hYear] at hFirst hLast hDay'
  simp only [isValid, Bool.and_eq_true, decide_eq_true_eq]
  exact ⟨⟨⟨⟨⟨hFirst, hLast⟩, hMonth⟩, hMonth'⟩, hDay⟩, hDay'⟩

end Date

end Crontab.Time
