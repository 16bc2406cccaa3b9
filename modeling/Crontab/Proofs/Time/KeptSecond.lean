import Crontab.Proofs.Number.Nearness
import Crontab.Time.Wall

/-!
# Seconds kept as floating point numbers

A search starts from a reading of which the seconds since 1970 are kept as a binary floating point
number.  That moves the reading into another minute only far away from 1970, and never a reading
without microseconds.

* `Wall.KeepsMinute` — the readings that stay in their minute;
* `Wall.keepsMinute_of_near` — readings within 544 years of 1970 and readings of whole seconds do;
* `Wall.keptSecond_bounds` — all others come no further than the beginning of the next minute.
-/

namespace Crontab.Time

open Number

/-- The minute of a reading survives when its seconds are kept as a floating point number. -/
def Wall.KeepsMinute (wall : Wall) : Prop :=
  wall.keptSecond / 60 = wall.minuteCount

/-- Numbers of microseconds of which the seconds are kept well: they are not too many, or whole
seconds. -/
def KeptWell (micros : Nat) : Prop :=
  micros < 2 ^ 34 * second ∨ (micros % second = 0 ∧ micros < 2 ^ 53 * second)

section kept

variable {micros : Nat}

/-- Fewer seconds than a power of two have a logarithm below its exponent. -/
theorem log_seconds_le (hPos : 0 < micros) {exponent : Nat} (h : micros < 2 ^ exponent * second) :
    Int.log 2 ((micros : ℚ) / second) < exponent := by
  have hSecond : (0 : ℚ) < second := by norm_num [second]
  have hMicros : (0 : ℚ) < micros := by exact_mod_cast hPos
  refine (Int.lt_zpow_iff_log_lt (b := 2) (by decide) (div_pos hMicros hSecond)).1 ?_
  rw [div_lt_iff₀ hSecond, zpow_natCast]
  exact_mod_cast h

/-- A count that is kept well has fewer than 2 ^ 53 whole seconds. -/
theorem KeptWell.lt (h : KeptWell micros) : micros < 2 ^ 53 * second := by
  rcases h with hNear | ⟨-, hWhole⟩
  · unfold second at *
    omega
  · exact hWhole

/-- Fewer than 2 ^ 53 seconds have their last binary place no higher than that of one. -/
theorem lastPlace_seconds_le (hPos : 0 < micros) (h : micros < 2 ^ 53 * second) :
    lastPlace micros second ≤ 0 := by
  have := log_seconds_le hPos h
  unfold lastPlace
  omega

variable {negative : Bool} {exponent : Fin 2047} {fraction : Fin (2 ^ 52)}

/-- Kept seconds are at most a millionth part of a second away, unless they are whole. -/
theorem abs_kept_sub_lt (hPos : 0 < micros) (hNear : micros < 2 ^ 34 * second)
    (h : Binary64.ofRatio negative micros second = .finite negative exponent fraction) :
    |Binary64.magnitude exponent fraction - (micros : ℚ) / second| < 1 / second := by
  have hLog := log_seconds_le hPos hNear
  have hPlace : lastPlace micros second ≤ -19 := by
    unfold lastPlace
    omega
  calc |Binary64.magnitude exponent fraction - (micros : ℚ) / second|
      ≤ 2 ^ lastPlace micros second / 2 :=
        Binary64.abs_magnitude_sub_le negative hPos (by decide) (by omega) h
    _ ≤ 2 ^ (-19 : Int) / 2 :=
        div_le_div_of_nonneg_right (zpow_le_zpow_right₀ (by decide) hPlace) (by decide)
    _ < 1 / second := by norm_num [second]

/-- Kept seconds are not moved over a whole second. -/
theorem kept_sides (hPos : 0 < micros) (hSmall : micros < 2 ^ 53 * second)
    (h : Binary64.ofRatio negative micros second = .finite negative exponent fraction)
    (bound : Int) :
    (micros ≤ bound * second → Binary64.magnitude exponent fraction ≤ bound) ∧
      (bound * second ≤ micros → bound ≤ Binary64.magnitude exponent fraction) := by
  have hSecond : (0 : ℚ) < second := by norm_num [second]
  have hSides := Binary64.magnitude_sides negative hPos (by decide)
    (lastPlace_seconds_le hPos hSmall) h
  constructor
  · intro hLe
    lift bound to Nat using by
      unfold second at hLe
      omega
    refine (hSides bound).1 ?_
    rw [div_le_iff₀ hSecond]
    exact_mod_cast hLe
  · intro hLe
    rcases Int.lt_or_le bound 0 with hBelow | hNot
    · have hBelow : (bound : ℚ) < 0 := by exact_mod_cast hBelow
      exact hBelow.le.trans (Binary64.magnitude_nonneg exponent fraction)
    · lift bound to Nat using hNot
      refine (hSides bound).2 ?_
      rw [le_div_iff₀ hSecond]
      exact_mod_cast hLe

/-- Kept seconds are on the same side of every whole second. -/
theorem kept_sides_of_keptWell (hPos : 0 < micros) (hKept : KeptWell micros)
    (h : Binary64.ofRatio negative micros second = .finite negative exponent fraction)
    (bound : Int) :
    (micros < bound * second → Binary64.magnitude exponent fraction < bound) ∧
      (bound * second < micros → bound < Binary64.magnitude exponent fraction) := by
  have hSecond : (0 : ℚ) < second := by norm_num [second]
  have hSmall := hKept.lt
  rcases hKept with hNear | ⟨hWhole, -⟩
  -- a microsecond away from a whole second is farther than kept seconds can move
  · have hAway := abs_lt.1 (abs_kept_sub_lt hPos hNear h)
    constructor
    · intro hLt
      have hGap : (micros : ℚ) / second + 1 / second ≤ bound := by
        rw [← add_div, div_le_iff₀ hSecond]
        exact_mod_cast hLt
      linarith
    · intro hLt
      have hGap : (bound : ℚ) ≤ micros / second - 1 / second := by
        rw [← sub_div, le_div_iff₀ hSecond, le_sub_iff_add_le]
        exact_mod_cast hLt
      linarith
  · obtain ⟨seconds, rfl⟩ : ∃ seconds, micros = seconds * second :=
      ⟨micros / second, (Nat.div_mul_cancel (Nat.dvd_of_mod_eq_zero hWhole)).symm⟩
    have hSides := kept_sides hPos hSmall h seconds
    rw [Nat.cast_mul] at hSides ⊢
    have hValue : Binary64.magnitude exponent fraction = (seconds : Int) :=
      le_antisymm (hSides.1 (le_refl _)) (hSides.2 (le_refl _))
    rw [hValue]
    exact ⟨fun hLt => by exact_mod_cast Int.lt_of_mul_lt_mul_right hLt (by decide),
      fun hLt => by exact_mod_cast Int.lt_of_mul_lt_mul_right hLt (by decide)⟩

end kept

/-- The whole seconds that are left of a number of microseconds whose seconds are kept as a floating
point number. -/
def keptFloor (micros : Int) : Int :=
  (Binary64.ofRatio (decide (micros < 0)) micros.natAbs second).floor?.getD 0

section floor

variable {micros : Int}

/-- No microseconds are kept as second zero. -/
theorem keptFloor_zero : keptFloor 0 = 0 := by decide +kernel

/-- What the seconds are kept as is not moved over a whole second, and not up to one either if they are
kept well. -/
theorem exists_kept (hSmall : micros.natAbs < 2 ^ 53 * second) :
    ∃ kept : ℚ, keptFloor micros = ⌊kept⌋ ∧
      (∀ bound : Int, bound * second ≤ micros → bound ≤ kept) ∧
      (∀ bound : Int, micros ≤ bound * second → kept ≤ bound) ∧
      (KeptWell micros.natAbs → ∀ bound : Int, micros < bound * second → kept < bound) := by
  rcases Nat.eq_zero_or_pos micros.natAbs with hZero | hPos
  · obtain rfl := Int.natAbs_eq_zero.1 hZero
    refine ⟨0, by rw [keptFloor_zero, Int.floor_zero], fun bound h => ?_, fun bound h => ?_,
      fun _ bound h => ?_⟩
    all_goals
      norm_cast
      unfold second at h
      omega
  obtain ⟨exponent, fraction, hNumber, -⟩ := Binary64.ofRatio_near (decide (micros < 0)) hPos
    (show 0 < second by decide) (Int.le_trans (lastPlace_seconds_le hPos hSmall) (by decide))
  have hSides := kept_sides hPos hSmall hNumber
  refine ⟨if micros < 0 then -Binary64.magnitude exponent fraction
    else Binary64.magnitude exponent fraction, ?_, ?_⟩
  · rw [keptFloor, hNumber, Binary64.floor?_eq, Option.getD_some]
    simp only [decide_eq_true_eq]
  -- The sides of the negative of a number are those of the negatives of the bounds.
  split_ifs with hNegative
  · refine ⟨fun bound hBound => ?_, fun bound hBound => ?_, fun hKept bound hBound => ?_⟩
    · have := (hSides (-bound)).1 (by rw [Int.neg_mul]; omega)
      push_cast at this
      linarith
    · have := (hSides (-bound)).2 (by rw [Int.neg_mul]; omega)
      push_cast at this
      linarith
    · have := (kept_sides_of_keptWell hPos hKept hNumber (-bound)).2 (by rw [Int.neg_mul]; omega)
      push_cast at this
      linarith
  · refine ⟨fun bound hBound => (hSides bound).2 (by omega),
      fun bound hBound => (hSides bound).1 (by omega), fun hKept bound hBound => ?_⟩
    exact (kept_sides_of_keptWell hPos hKept hNumber bound).1 (by omega)

/-- Seconds that are not before a whole second are not before it when they are kept. -/
theorem le_keptFloor (hSmall : micros.natAbs < 2 ^ 53 * second) {bound : Int}
    (hBound : bound * second ≤ micros) : bound ≤ keptFloor micros := by
  obtain ⟨kept, hFloor, hLow, -⟩ := exists_kept hSmall
  rw [hFloor, Int.le_floor]
  exact hLow bound hBound

/-- Seconds that are not behind a whole second are not behind it when they are kept. -/
theorem keptFloor_le (hSmall : micros.natAbs < 2 ^ 53 * second) {bound : Int}
    (hBound : micros ≤ bound * second) : keptFloor micros ≤ bound := by
  obtain ⟨kept, hFloor, -, hHigh, -⟩ := exists_kept hSmall
  rw [hFloor, ← Int.cast_le (R := ℚ)]
  exact (Int.floor_le kept).trans (hHigh bound hBound)

/-- Seconds before a whole second are before it when they are kept well. -/
theorem keptFloor_lt (hKept : KeptWell micros.natAbs) {bound : Int}
    (hBound : micros < bound * second) : keptFloor micros < bound := by
  obtain ⟨kept, hFloor, -, -, hStrict⟩ := exists_kept hKept.lt
  rw [hFloor, Int.floor_lt]
  exact hStrict hKept bound hBound

end floor

namespace Wall

variable {wall : Wall}

/-- The second kept of a reading is counted from the start of 1970. -/
theorem keptSecond_eq (wall : Wall) :
    wall.keptSecond = (epoch + keptFloor (wall.count - epoch * Time.second)).toNat :=
  rfl

/-- **Kept minutes.** A reading within 544 years of 1970, or of whole seconds, stays in its
minute. -/
theorem keepsMinute_of_near
    (h : ((wall.count : Int) - epoch * Time.second).natAbs < 2 ^ 34 * Time.second ∨
      wall.microsecond = 0) :
    wall.KeepsMinute := by
  have hCount := wall.count_lt
  have hKept : KeptWell ((wall.count : Int) - epoch * Time.second).natAbs := by
    rcases h with hNear | hWhole
    · exact .inl hNear
    · right
      unfold microsecond at hWhole
      unfold dayCount Time.day at hCount
      unfold Time.second epoch at *
      constructor <;> omega
  have hLow := le_keptFloor hKept.lt
    (show (60 * (wall.minuteCount : Int) - epoch) * Time.second ≤ _ by
      unfold minuteCount Time.minute epoch Time.second
      omega)
  have hHigh := keptFloor_lt hKept
    (show _ < (60 * (wall.minuteCount : Int) + 60 - epoch) * Time.second by
      unfold minuteCount Time.minute epoch Time.second
      omega)
  rw [KeepsMinute, keptSecond_eq]
  omega

/-- **Kept seconds.** A reading whose seconds are kept as a floating point number stays in its
minute or comes to the beginning of the next one. -/
theorem keptSecond_bounds (wall : Wall) :
    60 * wall.minuteCount ≤ wall.keptSecond ∧ wall.keptSecond ≤ 60 * (wall.minuteCount + 1) := by
  have hCount := wall.count_lt
  have hSmall : ((wall.count : Int) - epoch * Time.second).natAbs < 2 ^ 53 * Time.second := by
    unfold dayCount Time.day at hCount
    unfold Time.second epoch
    omega
  have hLow := le_keptFloor hSmall
    (show (60 * (wall.minuteCount : Int) - epoch) * Time.second ≤ _ by
      unfold minuteCount Time.minute epoch Time.second
      omega)
  have hHigh := keptFloor_le hSmall
    (show _ ≤ (60 * (wall.minuteCount : Int) + 60 - epoch) * Time.second by
      unfold minuteCount Time.minute epoch Time.second
      omega)
  rw [keptSecond_eq]
  omega

end Wall

end Crontab.Time
