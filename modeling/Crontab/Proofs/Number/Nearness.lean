import Crontab.Proofs.Number.Rounding
import Mathlib.Tactic.Linarith
import Mathlib.Tactic.NormNum

/-!
# How near the nearest number is

The nearest number to a ratio of moderate size is at most half a unit of its last place away, and on
the same side of every integer.

* `Binary64.magnitude`, `Binary64.floor?_eq` — the value of a finite number without its sign, and
  the floor by way of it;
* `lastPlace`, `nearestUnits` — the exponent of the last place of the nearest number, and a ratio
  rounded to units of that place;
* `Binary64.ofRatio_near` — the nearest number to a ratio is that many units;
* `Binary64.abs_magnitude_sub_le`, `Binary64.magnitude_sides` — how far it is away from the ratio.
-/

namespace Crontab.Number

/-- A quotient of at most a whole number is rounded to at most that number. -/
theorem roundQuotient_le {num den bound : Nat} (hDen : 0 < den) (h : num ≤ bound * den) :
    roundQuotient num den ≤ bound := by
  have hDiv := Nat.div_add_mod num den
  have hMod := Nat.mod_lt num hDen
  rw [Nat.mul_comm] at hDiv
  have hDown : num / den ≤ bound := Nat.div_le_of_le_mul (by rwa [Nat.mul_comm])
  unfold roundQuotient
  simp only [Bool.or_eq_true, decide_eq_true_eq, Bool.and_eq_true, beq_iff_eq]
  split
  · -- something is left, so that the bound is not met from below
    rcases Nat.eq_or_lt_of_le hDown with hEq | hLt
    · rw [hEq] at hDiv
      omega
    · exact hLt
  · exact hDown

/-- A quotient of at least a whole number is rounded to at least that number. -/
theorem le_roundQuotient {num den bound : Nat} (hDen : 0 < den) (h : bound * den ≤ num) :
    bound ≤ roundQuotient num den := by
  have hDown : bound ≤ num / den := (Nat.le_div_iff_mul_le hDen).2 h
  unfold roundQuotient
  simp only
  split <;> omega

/-- Rounding moves a quotient by at most one half. -/
theorem abs_roundQuotient_sub_le (num : Nat) {den : Nat} (hDen : 0 < den) :
    |(roundQuotient num den : ℚ) - num / den| ≤ 1 / 2 := by
  have hDen' : (0 : ℚ) < den := by exact_mod_cast hDen
  obtain ⟨hUpper, hLower⟩ := roundQuotient_bounds num hDen
  have hUpper : 2 * ((roundQuotient num den : ℚ) * den) ≤ 2 * num + den := by exact_mod_cast hUpper
  have hLower : 2 * (num : ℚ) ≤ 2 * ((roundQuotient num den : ℚ) * den) + den := by
    exact_mod_cast hLower
  rw [abs_le]
  constructor
  · rw [neg_le_sub_iff_le_add, div_le_iff₀ hDen']
    linarith
  · rw [sub_le_iff_le_add, ← sub_le_iff_le_add', le_div_iff₀ hDen']
    linarith

/-- The exponent of the last place of the nearest number to a ratio. -/
def lastPlace (num den : Nat) : Int :=
  max (Int.log 2 ((num : ℚ) / den) - 52) (-1074)

/-- A ratio in units of the last place of the nearest number, rounded. -/
def nearestUnits (num den : Nat) : Nat :=
  roundQuotient (scaleRatio num den (-lastPlace num den)).1
    (scaleRatio num den (-lastPlace num den)).2

section units

variable {num den bound : Nat}

/-- A ratio of at most so many units is rounded to at most so many. -/
theorem nearestUnits_le (hDen : 0 < den)
    (h : (num : ℚ) / den ≤ bound * 2 ^ lastPlace num den) : nearestUnits num den ≤ bound := by
  have hScaled := scaleRatio_den_pos num hDen (-lastPlace num den)
  have hScaled' : (0 : ℚ) < (scaleRatio num den (-lastPlace num den)).2 := by
    exact_mod_cast hScaled
  refine roundQuotient_le hScaled ?_
  rw [← Nat.cast_le (α := ℚ), Nat.cast_mul, ← div_le_iff₀ hScaled', scaleRatio_value, zpow_neg,
    ← div_eq_mul_inv, div_le_iff₀ (two_zpow_pos _)]
  exact h

/-- A ratio of at least so many units is rounded to at least so many. -/
theorem le_nearestUnits (hDen : 0 < den)
    (h : bound * 2 ^ lastPlace num den ≤ (num : ℚ) / den) : bound ≤ nearestUnits num den := by
  have hScaled := scaleRatio_den_pos num hDen (-lastPlace num den)
  have hScaled' : (0 : ℚ) < (scaleRatio num den (-lastPlace num den)).2 := by
    exact_mod_cast hScaled
  refine le_roundQuotient hScaled ?_
  rw [← Nat.cast_le (α := ℚ), Nat.cast_mul, ← le_div_iff₀ hScaled', scaleRatio_value, zpow_neg,
    ← div_eq_mul_inv, le_div_iff₀ (two_zpow_pos _)]
  exact h

/-- There are at most as many units as the significand can hold, and one more. -/
theorem nearestUnits_le_pow (num : Nat) (hDen : 0 < den) : nearestUnits num den ≤ 2 ^ 53 := by
  have hHigh := Int.lt_zpow_succ_log_self (b := 2) (by decide) ((num : ℚ) / den)
  rw [Nat.cast_ofNat] at hHigh
  refine nearestUnits_le hDen ?_
  calc (num : ℚ) / den ≤ 2 ^ (Int.log 2 ((num : ℚ) / den) + 1) := hHigh.le
    _ ≤ 2 ^ (53 + lastPlace num den) := by
        refine zpow_le_zpow_right₀ (by decide) ?_
        unfold lastPlace
        omega
    _ = (2 : ℚ) ^ (53 : Int) * 2 ^ lastPlace num den := zpow_add₀ (by decide) _ _
    _ = ((2 ^ 53 : Nat) : ℚ) * 2 ^ lastPlace num den := by norm_num

/-- There are at least as many units as in a normalised significand, unless the last place is the
least one. -/
theorem pow_le_nearestUnits (hNum : 0 < num) (hDen : 0 < den) (hPlace : -1074 < lastPlace num den) :
    2 ^ 52 ≤ nearestUnits num den := by
  have hPos : (0 : ℚ) < (num : ℚ) / den := by positivity
  have hLow := Int.zpow_log_le_self (b := 2) (by decide) hPos
  rw [Nat.cast_ofNat] at hLow
  refine le_nearestUnits hDen ?_
  calc ((2 ^ 52 : Nat) : ℚ) * 2 ^ lastPlace num den
      = (2 : ℚ) ^ (52 : Int) * 2 ^ lastPlace num den := by norm_num
    _ = 2 ^ (52 + lastPlace num den) := (zpow_add₀ (by decide) _ _).symm
    _ = 2 ^ Int.log 2 ((num : ℚ) / den) := by
        congr 1
        unfold lastPlace at hPlace ⊢
        omega
    _ ≤ (num : ℚ) / den := hLow

/-- Rounding to units of the last place moves a ratio by at most half a unit. -/
theorem abs_nearestUnits_sub_le (num : Nat) (hDen : 0 < den) :
    |nearestUnits num den * 2 ^ lastPlace num den - (num : ℚ) / den| ≤
      2 ^ lastPlace num den / 2 := by
  have hRound : |(nearestUnits num den : ℚ) - _| ≤ 1 / 2 :=
    abs_roundQuotient_sub_le _ (scaleRatio_den_pos num hDen (-lastPlace num den))
  have hPower := two_zpow_pos (lastPlace num den)
  rw [scaleRatio_value, zpow_neg] at hRound
  have hFactor : (nearestUnits num den : ℚ) * 2 ^ lastPlace num den - num / den =
      (nearestUnits num den - num / den * (2 ^ lastPlace num den)⁻¹) * 2 ^ lastPlace num den := by
    rw [sub_mul, mul_assoc, inv_mul_cancel₀ (ne_of_gt hPower), mul_one]
  rw [hFactor, abs_mul, abs_of_pos hPower]
  calc |(nearestUnits num den : ℚ) - num / den * (2 ^ lastPlace num den)⁻¹| *
        2 ^ lastPlace num den
      ≤ 1 / 2 * 2 ^ lastPlace num den := mul_le_mul_of_nonneg_right hRound (le_of_lt hPower)
    _ = 2 ^ lastPlace num den / 2 := by ring

end units

namespace Binary64

/-- The value of a finite number without its sign. -/
def magnitude (exponent : Fin 2047) (fraction : Fin (2 ^ 52)) : ℚ :=
  significandOf exponent fraction * 2 ^ scaleOf exponent

/-- A magnitude is not negative. -/
theorem magnitude_nonneg (exponent : Fin 2047) (fraction : Fin (2 ^ 52)) :
    0 ≤ magnitude exponent fraction :=
  mul_nonneg (Nat.cast_nonneg _) (two_zpow_pos _).le

/-- The floor of a finite number is the floor of its value. -/
theorem floor?_eq (negative : Bool) (exponent : Fin 2047) (fraction : Fin (2 ^ 52)) :
    (finite negative exponent fraction).floor? =
      some ⌊if negative then -magnitude exponent fraction else magnitude exponent fraction⌋ := by
  have hDen := scaleRatio_den_pos (significandOf exponent fraction) Nat.one_pos (scaleOf exponent)
  have hValue := scaleRatio_value (significandOf exponent fraction) 1 (scaleOf exponent)
  rw [Nat.cast_one, div_one] at hValue
  unfold floor? magnitude
  simp only
  rw [← hValue]
  generalize scaleRatio (significandOf exponent fraction) 1 (scaleOf exponent) = ratio at *
  congr 1
  cases negative with
  | false =>
    simp only [Bool.false_eq_true, if_false]
    exact (Rat.floor_intCast_div_natCast ratio.1 ratio.2).symm
  | true =>
    simp only [if_true]
    rw [← neg_div, ← Int.cast_natCast, ← Int.cast_neg]
    exact (Rat.floor_intCast_div_natCast (-ratio.1) ratio.2).symm

/-- Packing a significand of the right size makes a number of the expected value. -/
theorem exists_magnitude_ofSignificand (negative : Bool) (significand : Nat) (scale : Int)
    (hSmall : significand < 2 ^ 52 → scale = -1074) (hHigh : significand < 2 ^ 53)
    (hLeast : -1074 ≤ scale) (hGreatest : scale ≤ 971) :
    ∃ exponent fraction, ofSignificand negative significand scale =
        .finite negative exponent fraction ∧
      magnitude exponent fraction = significand * 2 ^ scale := by
  unfold ofSignificand
  by_cases hLt : significand < 2 ^ 52
  · rw [dif_pos hLt]
    refine ⟨_, _, rfl, ?_⟩
    rw [hSmall hLt]
    rfl
  · have hTop : (scale + 1075).toNat < 2047 := by omega
    rw [dif_neg hLt]
    simp only
    rw [dif_pos hTop]
    refine ⟨_, _, rfl, ?_⟩
    have hExponent : ¬(scale + 1075).toNat = 0 := by omega
    have hScale : ((scale + 1075).toNat : Int) - 1075 = scale := by omega
    have hFraction : 2 ^ 52 + (significand - 2 ^ 52) % 2 ^ 52 = significand := by omega
    rw [magnitude, significandOf, scaleOf, if_neg hExponent, if_neg hExponent, hScale, hFraction]

section near

variable {num den : Nat}

/-- **The nearest number.** Its value is the ratio rounded to a multiple of the last place. -/
theorem ofRatio_near (negative : Bool) (hNum : 0 < num) (hDen : 0 < den)
    (hPlace : lastPlace num den ≤ 970) :
    ∃ exponent fraction, ofRatio negative num den = .finite negative exponent fraction ∧
      magnitude exponent fraction = nearestUnits num den * 2 ^ lastPlace num den := by
  have hUpper := nearestUnits_le_pow num hDen
  have hLower := pow_le_nearestUnits hNum hDen
  have hLeast : -1074 ≤ lastPlace num den := by
    unfold lastPlace
    omega
  have hScale : max (floorLogRatio num den - 52) (-1074) = lastPlace num den := by
    rw [floorLogRatio_eq_log hNum hDen, lastPlace]
  unfold ofRatio
  rw [if_neg (Nat.ne_of_gt hNum)]
  simp only [hScale]
  rw [← nearestUnits]
  split
  · next hTop =>
    obtain ⟨exponent, fraction, hNumber, hMagnitude⟩ :=
      exists_magnitude_ofSignificand negative (2 ^ 52) (lastPlace num den + 1)
        (fun h => absurd h (by decide)) (by decide) (by omega) (by omega)
    refine ⟨exponent, fraction, hNumber, ?_⟩
    rw [hMagnitude, hTop, zpow_add₀ (by decide)]
    norm_num
    ring
  · next hTop =>
    refine exists_magnitude_ofSignificand negative _ _ ?_ (by omega) hLeast (by omega)
    omega

variable {exponent : Fin 2047} {fraction : Fin (2 ^ 52)}

/-- The magnitude of a rounded ratio is its nearest number of units in the last place. -/
theorem magnitude_of_ofRatio {negative : Bool} (hNum : 0 < num) (hDen : 0 < den)
    (hPlace : lastPlace num den ≤ 970)
    (h : ofRatio negative num den = .finite negative exponent fraction) :
    magnitude exponent fraction = nearestUnits num den * 2 ^ lastPlace num den := by
  obtain ⟨exponent', fraction', hNumber, hMagnitude⟩ := ofRatio_near negative hNum hDen hPlace
  obtain ⟨-, rfl, rfl⟩ := Binary64.finite.inj (hNumber.symm.trans h)
  exact hMagnitude

/-- The nearest number is at most half a unit of the last place away. -/
theorem abs_magnitude_sub_le (negative : Bool) (hNum : 0 < num) (hDen : 0 < den)
    (hPlace : lastPlace num den ≤ 970)
    (h : ofRatio negative num den = .finite negative exponent fraction) :
    |magnitude exponent fraction - (num : ℚ) / den| ≤ 2 ^ lastPlace num den / 2 := by
  rw [magnitude_of_ofRatio hNum hDen hPlace h]
  exact abs_nearestUnits_sub_le num hDen

/-- The nearest number is on the same side of every integer as the ratio. -/
theorem magnitude_sides (negative : Bool) (hNum : 0 < num) (hDen : 0 < den)
    (hPlace : lastPlace num den ≤ 0)
    (h : ofRatio negative num den = .finite negative exponent fraction) (bound : Nat) :
    ((num : ℚ) / den ≤ bound → magnitude exponent fraction ≤ bound) ∧
      ((bound : ℚ) ≤ num / den → bound ≤ magnitude exponent fraction) := by
  have hPower := two_zpow_pos (lastPlace num den)
  -- an integer is a whole number of units
  obtain ⟨units, hUnits⟩ : ∃ units : Nat, (bound : ℚ) = units * 2 ^ lastPlace num den := by
    refine ⟨bound * 2 ^ (-lastPlace num den).toNat, ?_⟩
    have hPlaces : ((-lastPlace num den).toNat : Int) = -lastPlace num den := by omega
    push_cast
    rw [← zpow_natCast, hPlaces, mul_assoc, ← zpow_add₀ (by decide), neg_add_cancel, zpow_zero,
      mul_one]
  rw [magnitude_of_ofRatio hNum hDen (by omega) h, hUnits]
  constructor
  · intro hLe
    exact mul_le_mul_of_nonneg_right (Nat.cast_le.2 (nearestUnits_le hDen hLe)) hPower.le
  · intro hLe
    exact mul_le_mul_of_nonneg_right (Nat.cast_le.2 (le_nearestUnits hDen hLe)) hPower.le

end near

end Binary64

end Crontab.Number
