import Crontab.Number.Binary64
import Mathlib.Data.Int.Log
import Mathlib.Data.Rat.Floor
import Mathlib.Tactic.FieldSimp
import Mathlib.Tactic.Positivity
import Mathlib.Tactic.Ring

/-!
# Rounding to binary floating point numbers

The nearest number to a ratio depends on nothing but the value of the ratio, and a ratio that is a
number already is rounded to itself.

* `scaleRatio_value`, `floorLogRatio_eq_log` — the two steps that bring a ratio to the size of a
  significand;
* `roundQuotient_congr`, `roundQuotient_mul_right` — rounding to natural numbers;
* `Binary64.ofRatio_congr` — equal ratios have the same nearest number;
* `Binary64.ofRatio_exact` — the nearest number to the value of a number is the number.
-/

namespace Crontab.Number

/-! ## Scaling -/

section scale

variable {num den : Nat}

/-- Scaling leaves a denominator positive. -/
theorem scaleRatio_den_pos (num : Nat) (hDen : 0 < den) (shift : Int) :
    0 < (scaleRatio num den shift).2 := by
  unfold scaleRatio
  split
  · exact hDen
  · exact Nat.mul_pos hDen (Nat.two_pow_pos _)

/-- Scaling leaves a numerator positive. -/
theorem scaleRatio_num_pos (den : Nat) (hNum : 0 < num) (shift : Int) :
    0 < (scaleRatio num den shift).1 := by
  unfold scaleRatio
  split
  · exact Nat.mul_pos hNum (Nat.two_pow_pos _)
  · exact hNum

/-- Scaling a ratio multiplies its value with a power of two. -/
theorem scaleRatio_value (num den : Nat) (shift : Int) :
    ((scaleRatio num den shift).1 : ℚ) / (scaleRatio num den shift).2 =
      (num : ℚ) / den * 2 ^ shift := by
  unfold scaleRatio
  split
  · next hShift =>
    obtain ⟨size, rfl⟩ := Int.eq_ofNat_of_zero_le hShift
    simp only [Int.toNat_natCast, Nat.cast_mul, Nat.cast_pow, Nat.cast_ofNat, zpow_natCast]
    ring
  · next hShift =>
    obtain ⟨size, rfl⟩ : ∃ size : Nat, shift = -(size : Int) := ⟨(-shift).toNat, by omega⟩
    simp only [neg_neg, Int.toNat_natCast, Nat.cast_mul, Nat.cast_pow, Nat.cast_ofNat, zpow_neg,
      zpow_natCast, div_eq_mul_inv, mul_inv]
    ring

theorem two_zpow_pos (n : Int) : (0 : ℚ) < 2 ^ n :=
  zpow_pos (by decide) n

/-- The integer logarithm is the only exponent whose powers enclose a number. -/
theorem log_two_eq {value : ℚ} (hPos : 0 < value) {exponent : Int} (hLow : 2 ^ exponent ≤ value)
    (hHigh : value < 2 ^ (exponent + 1)) : Int.log 2 value = exponent := by
  have hLe := (Int.zpow_le_iff_le_log (b := 2) (by decide) hPos).1 (by exact_mod_cast hLow)
  have hLt := (Int.lt_zpow_iff_log_lt (b := 2) (by decide) hPos).1 (by exact_mod_cast hHigh)
  omega

/-- A ratio lies between the powers of two that the logarithms of its parts suggest. -/
theorem ratio_bounds (hNum : 0 < num) (hDen : 0 < den) :
    (2 : ℚ) ^ ((num.log2 : Int) - den.log2 - 1) < (num : ℚ) / den ∧
      (num : ℚ) / den < 2 ^ ((num.log2 : Int) - den.log2 + 1) := by
  have hNumLow : (2 : ℚ) ^ (num.log2 : Int) ≤ num := by
    exact_mod_cast Nat.log2_self_le (Nat.ne_of_gt hNum)
  have hNumHigh : (num : ℚ) < 2 ^ ((num.log2 : Int) + 1) := by
    exact_mod_cast Nat.lt_log2_self (n := num)
  have hDenLow : (2 : ℚ) ^ (den.log2 : Int) ≤ den := by
    exact_mod_cast Nat.log2_self_le (Nat.ne_of_gt hDen)
  have hDenHigh : (den : ℚ) < 2 ^ ((den.log2 : Int) + 1) := by
    exact_mod_cast Nat.lt_log2_self (n := den)
  have hDen' : (0 : ℚ) < den := by exact_mod_cast hDen
  have hTwo : (2 : ℚ) ≠ 0 := by decide
  constructor
  · rw [lt_div_iff₀ hDen']
    calc (2 : ℚ) ^ ((num.log2 : Int) - den.log2 - 1) * den
        < 2 ^ ((num.log2 : Int) - den.log2 - 1) * 2 ^ ((den.log2 : Int) + 1) :=
          mul_lt_mul_of_pos_left hDenHigh (two_zpow_pos _)
      _ = 2 ^ (num.log2 : Int) := by
          rw [← zpow_add₀ hTwo]
          congr 1
          omega
      _ ≤ num := hNumLow
  · rw [div_lt_iff₀ hDen']
    calc (num : ℚ) < 2 ^ ((num.log2 : Int) + 1) := hNumHigh
      _ = 2 ^ ((num.log2 : Int) - den.log2 + 1) * 2 ^ (den.log2 : Int) := by
          rw [← zpow_add₀ hTwo]
          congr 1
          omega
      _ ≤ 2 ^ ((num.log2 : Int) - den.log2 + 1) * den :=
          mul_le_mul_of_nonneg_left hDenLow (le_of_lt (two_zpow_pos _))

/-- **The exponent of a ratio** is its logarithm. -/
theorem floorLogRatio_eq_log (hNum : 0 < num) (hDen : 0 < den) :
    floorLogRatio num den = Int.log 2 ((num : ℚ) / den) := by
  have hPos : (0 : ℚ) < (num : ℚ) / den := by positivity
  obtain ⟨hLow, hHigh⟩ := ratio_bounds hNum hDen
  generalize hGuess : (num.log2 : Int) - den.log2 = guess at hLow hHigh
  have hScaledDen : (0 : ℚ) < (scaleRatio num den (-guess)).2 := by
    exact_mod_cast scaleRatio_den_pos _ hDen _
  have hCompare : (scaleRatio num den (-guess)).2 ≤ (scaleRatio num den (-guess)).1 ↔
      (2 : ℚ) ^ guess ≤ (num : ℚ) / den := by
    rw [← Nat.cast_le (α := ℚ), ← one_le_div hScaledDen, scaleRatio_value, zpow_neg,
      ← div_eq_mul_inv, one_le_div (two_zpow_pos guess)]
  unfold floorLogRatio
  simp only [hGuess]
  split
  · next hLe => exact (log_two_eq hPos (hCompare.1 hLe) hHigh).symm
  · next hLt =>
    rw [hCompare, not_le] at hLt
    exact (log_two_eq hPos (le_of_lt hLow) (by rwa [Int.sub_add_cancel])).symm

end scale

/-! ## Rounding to natural numbers -/

/-- Rounding a quotient does not depend on a common factor. -/
theorem roundQuotient_mul_left {factor : Nat} (hFactor : 0 < factor) (num den : Nat) :
    roundQuotient (factor * num) (factor * den) = roundQuotient num den := by
  have hHalf : ∀ rest : Nat, factor * den < 2 * (factor * rest) ↔ den < 2 * rest := by
    intro rest
    rw [Nat.mul_left_comm]
    exact Nat.mul_lt_mul_left hFactor
  have hTie : ∀ rest : Nat, 2 * (factor * rest) = factor * den ↔ 2 * rest = den := by
    intro rest
    rw [Nat.mul_left_comm]
    exact Nat.mul_right_inj (Nat.ne_of_gt hFactor)
  unfold roundQuotient
  simp only [Nat.mul_div_mul_left _ _ hFactor, Nat.mul_mod_mul_left, Bool.or_eq_true,
    decide_eq_true_eq, Bool.and_eq_true, beq_iff_eq, hHalf, hTie]

/-- Equal quotients are rounded alike. -/
theorem roundQuotient_congr {num den num' den' : Nat} (hDen : 0 < den) (hDen' : 0 < den')
    (h : num * den' = num' * den) : roundQuotient num den = roundQuotient num' den' := by
  rw [← roundQuotient_mul_left hDen' num den, ← roundQuotient_mul_left hDen num' den',
    Nat.mul_comm den' num, h, Nat.mul_comm num' den, Nat.mul_comm den' den]

/-- A natural number is rounded to itself. -/
theorem roundQuotient_mul_right (n : Nat) {den : Nat} (hDen : 0 < den) :
    roundQuotient (n * den) den = n := by
  unfold roundQuotient
  have hNot : ¬den < 0 := Nat.not_lt_zero den
  have hNe : ¬0 = den := Nat.ne_of_lt hDen
  simp [Nat.mul_div_cancel n hDen, hNot, hNe]

/-- Rounding goes to one of the two neighbours, which are at most half of one away. -/
theorem roundQuotient_bounds (num : Nat) {den : Nat} (hDen : 0 < den) :
    2 * (roundQuotient num den * den) ≤ 2 * num + den ∧
      2 * num ≤ 2 * (roundQuotient num den * den) + den := by
  have hDiv := Nat.div_add_mod num den
  have hMod := Nat.mod_lt num hDen
  unfold roundQuotient
  simp only [Bool.or_eq_true, decide_eq_true_eq, Bool.and_eq_true, beq_iff_eq]
  rw [Nat.mul_comm] at hDiv
  split
  · rw [Nat.add_mul, Nat.one_mul]
    omega
  · omega

namespace Binary64

/-! ## Equal ratios -/

/-- The same number with the given sign. -/
def signed (negative : Bool) : Binary64 → Binary64
  | .nan => .nan
  | .infinity _ => .infinity negative
  | .finite _ exponent fraction => .finite negative exponent fraction

/-- The sign of a number is put on after it is rounded. -/
theorem ofSignificand_signed (negative : Bool) (significand : Nat) (scale : Int) :
    ofSignificand negative significand scale =
      signed negative (ofSignificand false significand scale) := by
  unfold ofSignificand
  split
  · rfl
  · simp only
    split <;> rfl

/-- The sign of a ratio passes on to the nearest number. -/
theorem ofRatio_signed (negative : Bool) (num den : Nat) :
    ofRatio negative num den = signed negative (ofRatio false num den) := by
  unfold ofRatio
  split
  · rfl
  · simp only
    split
    · exact ofSignificand_signed _ _ _
    · exact ofSignificand_signed _ _ _

/-- Fractions with equal cross products are the same ratio. -/
theorem ratio_eq {num den num' den' : Nat} (hDen : 0 < den) (hDen' : 0 < den')
    (h : num * den' = num' * den) : (num : ℚ) / den = (num' : ℚ) / den' := by
  have hDen : (den : ℚ) ≠ 0 := by exact_mod_cast Nat.ne_of_gt hDen
  have hDen' : (den' : ℚ) ≠ 0 := by exact_mod_cast Nat.ne_of_gt hDen'
  rw [div_eq_div_iff hDen hDen']
  exact_mod_cast h

/-- Fractions of the same ratio have equal cross products. -/
theorem mul_eq_of_ratio_eq {num den num' den' : Nat} (hDen : 0 < den) (hDen' : 0 < den')
    (h : (num : ℚ) / den = (num' : ℚ) / den') : num * den' = num' * den := by
  have hDen : (den : ℚ) ≠ 0 := by exact_mod_cast Nat.ne_of_gt hDen
  have hDen' : (den' : ℚ) ≠ 0 := by exact_mod_cast Nat.ne_of_gt hDen'
  rw [div_eq_div_iff hDen hDen'] at h
  exact_mod_cast h

/-- **Equal ratios.** The nearest number to a ratio depends on its value only. -/
theorem ofRatio_congr (negative : Bool) {num den num' den' : Nat} (hDen : 0 < den)
    (hDen' : 0 < den') (h : num * den' = num' * den) :
    ofRatio negative num den = ofRatio negative num' den' := by
  have hZero : num = 0 ↔ num' = 0 := by
    constructor
    · rintro rfl
      rw [Nat.zero_mul] at h
      exact (Nat.mul_eq_zero.1 h.symm).resolve_right (Nat.ne_of_gt hDen)
    · rintro rfl
      rw [Nat.zero_mul] at h
      exact (Nat.mul_eq_zero.1 h).resolve_right (Nat.ne_of_gt hDen')
  unfold ofRatio
  by_cases hNum : num = 0
  · rw [if_pos hNum, if_pos (hZero.1 hNum)]
  · have hNum' : ¬num' = 0 := fun hNum' => hNum (hZero.2 hNum')
    have hLog : floorLogRatio num den = floorLogRatio num' den' := by
      rw [floorLogRatio_eq_log (Nat.pos_of_ne_zero hNum) hDen,
        floorLogRatio_eq_log (Nat.pos_of_ne_zero hNum') hDen', ratio_eq hDen hDen' h]
    have hRound : ∀ shift, roundQuotient (scaleRatio num den shift).1 (scaleRatio num den shift).2 =
        roundQuotient (scaleRatio num' den' shift).1 (scaleRatio num' den' shift).2 := by
      intro shift
      refine roundQuotient_congr (scaleRatio_den_pos _ hDen _) (scaleRatio_den_pos _ hDen' _) ?_
      refine mul_eq_of_ratio_eq (scaleRatio_den_pos _ hDen _) (scaleRatio_den_pos _ hDen' _) ?_
      rw [scaleRatio_value, scaleRatio_value, ratio_eq hDen hDen' h]
    rw [if_neg hNum, if_neg hNum', hLog]
    simp only [hRound]

/-! ## Exact ratios -/

/-- The significand of a number lies below `2 ^ 53`, and at least at `2 ^ 52` unless the scale is the
least one. -/
theorem significandOf_bounds (exponent : Fin 2047) (fraction : Fin (2 ^ 52)) :
    (exponent.val = 0 ∧ significandOf exponent fraction < 2 ^ 52 ∧ scaleOf exponent = -1074) ∨
      (1 ≤ exponent.val ∧ 2 ^ 52 ≤ significandOf exponent fraction ∧
        significandOf exponent fraction < 2 ^ 53 ∧ scaleOf exponent = exponent.val - 1075) := by
  have hFraction := fraction.isLt
  unfold significandOf scaleOf
  by_cases hZero : exponent.val = 0
  · simp only [if_pos hZero]
    exact .inl ⟨hZero, hFraction, trivial⟩
  · simp only [if_neg hZero]
    exact .inr ⟨by omega, by omega, by omega, trivial⟩

/-- A finite number is told by the values of its exponent and its fraction. -/
theorem finite_eq (negative : Bool) {exponent : Fin 2047} {fraction : Fin (2 ^ 52)} {m n : Nat}
    (hm : m < 2047) (hn : n < 2 ^ 52) (hExponent : m = exponent.val) (hFraction : n = fraction.val) :
    finite negative ⟨m, hm⟩ ⟨n, hn⟩ = finite negative exponent fraction := by
  subst hExponent hFraction
  rfl

/-- Packing the significand of a number gives the number back. -/
theorem ofSignificand_significandOf (negative : Bool) (exponent : Fin 2047)
    (fraction : Fin (2 ^ 52)) :
    ofSignificand negative (significandOf exponent fraction) (scaleOf exponent) =
      .finite negative exponent fraction := by
  have hExponent := exponent.isLt
  have hFraction := fraction.isLt
  unfold ofSignificand
  rcases significandOf_bounds exponent fraction with ⟨hZero, hLt, -⟩ | ⟨hPos, hLe, -, hScale⟩
  · rw [dif_pos hLt]
    have hSignificand : significandOf exponent fraction = fraction.val := by
      rw [significandOf, if_pos hZero]
    congr 1
    · exact Fin.ext hZero.symm
    · exact Fin.ext hSignificand
  · rw [dif_neg (Nat.not_lt.2 hLe)]
    have hBack : (scaleOf exponent + 1075).toNat = exponent.val := by omega
    have hSignificand : significandOf exponent fraction = 2 ^ 52 + fraction.val := by
      rw [significandOf, if_neg (by omega)]
    have hMod : (significandOf exponent fraction - 2 ^ 52) % 2 ^ 52 = fraction.val := by omega
    have hTop : (scaleOf exponent + 1075).toNat < 2047 := by omega
    rw [dif_pos hTop]
    exact finite_eq negative _ _ hBack hMod

/-- The value of a number has the scale of the number. -/
theorem log_value {exponent : Fin 2047} {fraction : Fin (2 ^ 52)}
    (h : significandOf exponent fraction ≠ 0) :
    max (Int.log 2 ((significandOf exponent fraction : ℚ) * 2 ^ scaleOf exponent) - 52) (-1074) =
      scaleOf exponent := by
  generalize hSig : significandOf exponent fraction = significand at h
  have hPos : (0 : ℚ) < significand := by exact_mod_cast Nat.pos_of_ne_zero h
  have hLow : (2 : ℚ) ^ (significand.log2 : Int) ≤ significand := by
    exact_mod_cast Nat.log2_self_le h
  have hHigh : (significand : ℚ) < 2 ^ ((significand.log2 : Int) + 1) := by
    exact_mod_cast Nat.lt_log2_self (n := significand)
  have hScale := two_zpow_pos (scaleOf exponent)
  have hTwo : (2 : ℚ) ≠ 0 := by decide
  have hLog : Int.log 2 ((significand : ℚ) * 2 ^ scaleOf exponent) =
      significand.log2 + scaleOf exponent := by
    refine log_two_eq (mul_pos hPos hScale) ?_ ?_
    · rw [zpow_add₀ hTwo]
      exact mul_le_mul_of_nonneg_right hLow (le_of_lt hScale)
    · rw [Int.add_right_comm, zpow_add₀ hTwo]
      exact mul_lt_mul_of_pos_right hHigh hScale
  rw [hLog]
  -- below the least exponent the scale does not follow the logarithm any more
  rcases significandOf_bounds exponent fraction with ⟨-, hLt, hLeast⟩ | ⟨hExponent, hLe, hLt, hOwn⟩
  · rw [hSig] at hLt
    have := (Nat.log2_lt h).2 hLt
    omega
  · rw [hSig] at hLe hLt
    have hUpper := (Nat.log2_lt h).2 hLt
    have hLower := (Nat.le_log2 h).2 hLe
    omega

/-- **Numbers are rounded to themselves.** The nearest number to the value of a number is the
number. -/
theorem ofRatio_exact (negative : Bool) {exponent : Fin 2047} {fraction : Fin (2 ^ 52)}
    (h : significandOf exponent fraction ≠ 0) :
    ofRatio negative (scaleRatio (significandOf exponent fraction) 1 (scaleOf exponent)).1
        (scaleRatio (significandOf exponent fraction) 1 (scaleOf exponent)).2 =
      .finite negative exponent fraction := by
  have hSmall : significandOf exponent fraction ≠ 2 ^ 53 := by
    rcases significandOf_bounds exponent fraction with ⟨-, hLt, -⟩ | ⟨-, -, hLt, -⟩ <;> omega
  have hNum := scaleRatio_num_pos 1 (Nat.pos_of_ne_zero h) (scaleOf exponent)
  have hDen := scaleRatio_den_pos (significandOf exponent fraction) Nat.one_pos (scaleOf exponent)
  have hValue := scaleRatio_value (significandOf exponent fraction) 1 (scaleOf exponent)
  rw [Nat.cast_one, div_one] at hValue
  generalize scaleRatio (significandOf exponent fraction) 1 (scaleOf exponent) = ratio at *
  have hScale : max (floorLogRatio ratio.1 ratio.2 - 52) (-1074) = scaleOf exponent := by
    rw [floorLogRatio_eq_log hNum hDen, hValue]
    exact log_value h
  -- scaled back, the ratio is the significand, and there is nothing to round
  have hRound : roundQuotient (scaleRatio ratio.1 ratio.2 (-scaleOf exponent)).1
      (scaleRatio ratio.1 ratio.2 (-scaleOf exponent)).2 = significandOf exponent fraction := by
    have hScaled := scaleRatio_den_pos ratio.1 hDen (-scaleOf exponent)
    rw [← roundQuotient_mul_right (significandOf exponent fraction) hScaled]
    refine roundQuotient_congr hScaled hScaled ?_
    refine congrArg (· * _) ?_
    have hBack := scaleRatio_value ratio.1 ratio.2 (-scaleOf exponent)
    rw [hValue, mul_assoc, ← zpow_add₀ (by decide), Int.add_right_neg, zpow_zero, mul_one,
      div_eq_iff (by exact_mod_cast Nat.ne_of_gt hScaled)] at hBack
    exact_mod_cast hBack
  unfold ofRatio
  rw [if_neg (Nat.ne_of_gt hNum)]
  simp only [hScale, hRound, if_neg hSmall]
  exact ofSignificand_significandOf negative exponent fraction

end Binary64

end Crontab.Number
