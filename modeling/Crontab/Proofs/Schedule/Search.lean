import Crontab.Schedule.Search

/-!
# The search finds the first minute that fits

* `Schedule.fits_mul_add` — whether a minute fits, by its day and its time of day;
* `Schedule.firstFit?_spec` — what is found fits, and nothing before it does;
* `Schedule.firstFit?_eq_none` — if nothing is found, nothing fits.
-/

namespace Crontab.Schedule

variable {schedule : Schedule}

/-- A minute fits if its date and its time of day do. -/
theorem fits_mul_add (schedule : Schedule) (day : Nat) {time : Nat} (h : time < minutesPerDay) :
    schedule.fits (day * minutesPerDay + time) = (schedule.fitsDay day && schedule.fitsTime time) := by
  have hDay : (day * minutesPerDay + time) / minutesPerDay = day := by
    unfold minutesPerDay at *
    omega
  have hTime : (day * minutesPerDay + time) % minutesPerDay = time := by
    unfold minutesPerDay at *
    omega
  rw [fits, hDay, hTime]

/-- The first time of a day that is found fits, and no earlier one does. -/
theorem firstTime?_spec {start found : Nat} (h : schedule.firstTime? start = some found) :
    schedule.fitsTime found = true ∧ start ≤ found ∧ found < minutesPerDay ∧
      ∀ time, start ≤ time → time < found → schedule.fitsTime time = false := by
  obtain ⟨hFits, hMem, hBefore⟩ := List.find?_range'_eq_some.1 h
  rw [List.mem_range'_1] at hMem
  refine ⟨hFits, hMem.1, by omega, ?_⟩
  intro time hLow hHigh
  simpa using hBefore time hLow hHigh

/-- If no time of a day is found, none fits. -/
theorem firstTime?_eq_none {start : Nat} (h : schedule.firstTime? start = none) {time : Nat}
    (hLow : start ≤ time) (hHigh : time < minutesPerDay) : schedule.fitsTime time = false := by
  have hMem : time ∈ List.range' start (minutesPerDay - start) := by
    rw [List.mem_range'_1]
    omega
  simpa using List.find?_eq_none.1 h time hMem

/-- The first day that is found fits, and no earlier one does. -/
theorem firstDay?_spec {day count found : Nat} (h : schedule.firstDay? day count = some found) :
    schedule.fitsDay found = true ∧
      ∀ other, day ≤ other → other < found → schedule.fitsDay other = false := by
  induction count generalizing day with
  | zero => simp [firstDay?] at h
  | succ count ih =>
    rw [firstDay?] at h
    split at h
    · next hFits =>
      obtain rfl := Option.some.inj h
      exact ⟨hFits, fun other hLow hHigh => absurd hHigh (Nat.not_lt.2 hLow)⟩
    · next hFits =>
      obtain ⟨hFound, hBefore⟩ := ih h
      refine ⟨hFound, fun other hLow hHigh => ?_⟩
      rcases Nat.eq_or_lt_of_le hLow with rfl | hLt
      · exact Bool.eq_false_iff.2 hFits
      · exact hBefore other hLt hHigh

/-- If no day is found, none of those searched fits. -/
theorem firstDay?_eq_none {day count : Nat} (h : schedule.firstDay? day count = none) {other : Nat}
    (hLow : day ≤ other) (hHigh : other < day + count) : schedule.fitsDay other = false := by
  induction count generalizing day with
  | zero => omega
  | succ count ih =>
    rw [firstDay?] at h
    split at h
    · cases h
    · next hFits =>
      rcases Nat.eq_or_lt_of_le hLow with rfl | hLt
      · exact Bool.eq_false_iff.2 hFits
      · exact ih h hLt (by omega)

/-- The first minute of a day that is found fits, and no earlier one does. -/
theorem firstOnDay?_spec {start found : Nat} (h : schedule.firstOnDay? start = some found) :
    schedule.fits found = true ∧
      ∀ minute, start ≤ minute → minute < found → schedule.fits minute = false := by
  unfold firstOnDay? at h
  split at h
  · next hDay =>
    obtain ⟨time, hTime, rfl⟩ := Option.map_eq_some_iff.1 h
    obtain ⟨hFits, -, hLt, hBefore⟩ := firstTime?_spec hTime
    refine ⟨?_, fun minute hLow hHigh => ?_⟩
    · rw [fits_mul_add schedule _ hLt, hDay, hFits, Bool.and_self]
    · have hTimes : start % minutesPerDay ≤ minute % minutesPerDay ∧
          minute % minutesPerDay < time := by
        unfold minutesPerDay at *
        omega
      rw [fits, hBefore _ hTimes.1 hTimes.2, Bool.and_false]
  · cases h

/-- If no minute of a day is found, none of its minutes fits. -/
theorem firstOnDay?_eq_none {start : Nat} (h : schedule.firstOnDay? start = none) {minute : Nat}
    (hLow : start ≤ minute) (hDay : minute / minutesPerDay = start / minutesPerDay) :
    schedule.fits minute = false := by
  unfold firstOnDay? at h
  split at h
  · have hTime := Option.map_eq_none_iff.1 h
    have hStart : start % minutesPerDay ≤ minute % minutesPerDay := by
      unfold minutesPerDay at *
      omega
    have hMod := Nat.mod_lt minute (show 0 < minutesPerDay by decide)
    rw [fits, firstTime?_eq_none hTime hStart hMod, Bool.and_false]
  · next hFits => rw [fits, hDay, Bool.eq_false_iff.2 hFits, Bool.false_and]

/-- The first minute found on a later day fits, and no earlier one on these days does. -/
theorem firstOnLaterDay?_spec {day limit found : Nat}
    (h : schedule.firstOnLaterDay? day limit = some found) :
    schedule.fits found = true ∧
      ∀ minute, day ≤ minute / minutesPerDay → minute < found → schedule.fits minute = false := by
  unfold firstOnLaterDay? at h
  split at h
  · cases h
  · next time hTime =>
    obtain ⟨first, hFirst, rfl⟩ := Option.map_eq_some_iff.1 h
    obtain ⟨hFitsTime, -, hLt, hBefore⟩ := firstTime?_spec hTime
    obtain ⟨hFitsDay, hDays⟩ := firstDay?_spec hFirst
    refine ⟨?_, fun minute hDay hMinute => ?_⟩
    · rw [fits_mul_add schedule first hLt, hFitsDay, hFitsTime, Bool.and_self]
    · rcases Nat.lt_or_ge (minute / minutesPerDay) first with hEarlier | hSame
      · rw [fits, hDays _ hDay hEarlier, Bool.false_and]
      · have hTimeLt : minute % minutesPerDay < time := by
          unfold minutesPerDay at *
          omega
        rw [fits, hBefore _ (Nat.zero_le _) hTimeLt, Bool.and_false]

/-- If no minute is found on later days, none of theirs fits. -/
theorem firstOnLaterDay?_eq_none {day limit : Nat} (h : schedule.firstOnLaterDay? day limit = none)
    {minute : Nat} (hLow : day ≤ minute / minutesPerDay) (hHigh : minute / minutesPerDay < limit) :
    schedule.fits minute = false := by
  unfold firstOnLaterDay? at h
  split at h
  · next hTime =>
    have hMod := Nat.mod_lt minute (show 0 < minutesPerDay by decide)
    rw [fits, firstTime?_eq_none hTime (Nat.zero_le _) hMod, Bool.and_false]
  · have hDay := Option.map_eq_none_iff.1 h
    rw [fits, firstDay?_eq_none hDay hLow (by omega), Bool.false_and]

/-- **The first minute that fits.** What the search finds fits, and nothing from the start of the
search up to it does. -/
theorem firstFit?_spec {start limit found : Nat}
    (h : schedule.firstFit? start limit = some found) :
    schedule.fits found = true ∧
      ∀ minute, start ≤ minute → minute < found → schedule.fits minute = false := by
  unfold firstFit? at h
  split at h
  · next minute hMinute =>
    obtain rfl := Option.some.inj h
    exact firstOnDay?_spec hMinute
  · next hNone =>
    obtain ⟨hFits, hBefore⟩ := firstOnLaterDay?_spec h
    refine ⟨hFits, fun minute hLow hHigh => ?_⟩
    rcases Nat.lt_or_ge (start / minutesPerDay) (minute / minutesPerDay) with hLater | hSame
    · exact hBefore minute hLater hHigh
    · exact firstOnDay?_eq_none hNone hLow (Nat.le_antisymm hSame (Nat.div_le_div_right hLow))

/-- **Nothing fits.** If nothing is found then no minute from the start of the search on fits that
lies on one of the days searched. -/
theorem firstFit?_eq_none {start limit : Nat} (h : schedule.firstFit? start limit = none)
    {minute : Nat} (hLow : start ≤ minute) (hHigh : minute / minutesPerDay < limit) :
    schedule.fits minute = false := by
  unfold firstFit? at h
  split at h
  · cases h
  · next hNone =>
    rcases Nat.lt_or_ge (start / minutesPerDay) (minute / minutesPerDay) with hLater | hSame
    · exact firstOnLaterDay?_eq_none h hLater hHigh
    · exact firstOnDay?_eq_none hNone hLow (Nat.le_antisymm hSame (Nat.div_le_div_right hLow))

end Crontab.Schedule
