import Crontab.Schedule.Basic
import Crontab.Time.Wall

/-!
# Searching the calendar

The first minute, from a given one on, at which a clock reading fits a schedule.  Minutes are
counted from the beginning of year 1.  A reading fits if every one of its five parts is among the
values of its field, so that the two day fields restrict each other.

* `Schedule.fits` — whether a minute fits a schedule;
* `Schedule.firstFit?` — the first minute that fits, searched day by day up to a given day.
-/

namespace Crontab

open Time

/-- Minutes in a day. -/
def minutesPerDay : Nat := 1440

/-- The number of minutes of the calendar. -/
def minuteLimit : Nat := dayCount * minutesPerDay

namespace Schedule

/-- Whether the date of a day fits a schedule. -/
def fitsDay (schedule : Schedule) (day : Nat) : Bool :=
  let date := Date.ofDayNumber day
  schedule.month.contains date.month && schedule.dayOfMonth.contains date.day &&
    schedule.dayOfWeek.contains (weekday day)

/-- Whether the time at a minute of the day fits a schedule. -/
def fitsTime (schedule : Schedule) (minuteOfDay : Nat) : Bool :=
  schedule.hour.contains (minuteOfDay / 60) && schedule.minute.contains (minuteOfDay % 60)

/-- Whether a minute fits a schedule. -/
def fits (schedule : Schedule) (minute : Nat) : Bool :=
  schedule.fitsDay (minute / minutesPerDay) && schedule.fitsTime (minute % minutesPerDay)

/-- The first minute of a day, from a given one on, whose time fits. -/
def firstTime? (schedule : Schedule) (start : Nat) : Option Nat :=
  (List.range' start (minutesPerDay - start)).find? schedule.fitsTime

/-- The first of a number of days, from a given one on, whose date fits. -/
def firstDay? (schedule : Schedule) (day : Nat) : (count : Nat) → Option Nat
  | 0 => none
  | count + 1 => if schedule.fitsDay day then some day else firstDay? schedule (day + 1) count

/-- The first minute on one of the days before `limit`, from a given day on, that fits. -/
def firstOnLaterDay? (schedule : Schedule) (day limit : Nat) : Option Nat :=
  match schedule.firstTime? 0 with
  | none => none
  | some minuteOfDay =>
    (schedule.firstDay? day (limit - day)).map (· * minutesPerDay + minuteOfDay)

/-- The first minute on the day of `start` that is not before `start` and fits. -/
def firstOnDay? (schedule : Schedule) (start : Nat) : Option Nat :=
  if schedule.fitsDay (start / minutesPerDay) then
    (schedule.firstTime? (start % minutesPerDay)).map
      (start / minutesPerDay * minutesPerDay + ·)
  else none

/-- The first minute from `start` on, on the day of `start` or a later day before `limit`, that
fits. -/
def firstFit? (schedule : Schedule) (start limit : Nat) : Option Nat :=
  match schedule.firstOnDay? start with
  | some minute => some minute
  | none => schedule.firstOnLaterDay? (start / minutesPerDay + 1) limit

/-- A day that is found lies among those searched. -/
theorem le_of_firstDay? {schedule : Schedule} {day found : Nat} :
    ∀ {count : Nat}, schedule.firstDay? day count = some found → day ≤ found := by
  intro count h
  induction count generalizing day with
  | zero => simp [firstDay?] at h
  | succ count ih =>
    rw [firstDay?] at h
    split at h
    · simp at h; omega
    · have := ih h; omega

/-- A minute that is found is not before the start of the search. -/
theorem le_of_firstFit? {schedule : Schedule} {start limit found : Nat}
    (h : schedule.firstFit? start limit = some found) : start ≤ found := by
  unfold firstFit? at h
  split at h
  · next minute hMinute =>
    simp only [Option.some.injEq] at h
    subst h
    unfold firstOnDay? at hMinute
    split at hMinute
    · obtain ⟨time, hTime, rfl⟩ := Option.map_eq_some_iff.1 hMinute
      have hMem := List.mem_of_find?_eq_some hTime
      rw [List.mem_range'_1] at hMem
      have := Nat.div_add_mod start minutesPerDay
      rw [Nat.mul_comm]
      omega
    · simp at hMinute
  · unfold firstOnLaterDay? at h
    split at h
    · simp at h
    · obtain ⟨day, hDay, rfl⟩ := Option.map_eq_some_iff.1 h
      have hLe := le_of_firstDay? hDay
      have hMul := Nat.mul_le_mul_right minutesPerDay hLe
      rw [Nat.add_mul] at hMul
      have hMod := Nat.mod_lt start (show 0 < minutesPerDay by decide)
      have := Nat.div_add_mod start minutesPerDay
      rw [Nat.mul_comm] at this
      omega

end Schedule

end Crontab
