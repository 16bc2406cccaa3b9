import Crontab.Number.Shortest
import Crontab.Proofs.Number.Rounding
import Crontab.Proofs.Text.Numerals

/-!
# Decimals for binary floating point numbers

The number that a decimal reads as depends on its value only, and the decimal that is written for a
number reads as that number.

* `Binary64.ofDecimal_eq_ofRatio` — a decimal of moderate size as a ratio;
* `Binary64.ofDecimal_shift` — moving zeros between the digits and the exponent;
* `shortest_reads` — the decimal written for a number reads back.
-/

namespace Crontab.Number

open Text

namespace Binary64

/-- The sign of a decimal passes on to the number. -/
theorem ofDecimal_signed (negative : Bool) (digits : Nat) (exponent : Int) :
    ofDecimal negative digits exponent = signed negative (ofDecimal false digits exponent) := by
  unfold ofDecimal
  simp only
  split
  · rfl
  · split
    · rfl
    · split
      · exact ofRatio_signed _ _ _
      · exact ofRatio_signed _ _ _

/-- A decimal of moderate size is read as the nearest number to a ratio. -/
theorem ofDecimal_eq_ofRatio (negative : Bool) {digits : Nat} {exponent : Int} (hDigits : 0 < digits)
    (hLow : -330 ≤ ((numeral digits).length : Int) + exponent)
    (hHigh : ((numeral digits).length : Int) + exponent ≤ 310) :
    ofDecimal negative digits exponent =
      ofRatio negative (digits * 10 ^ exponent.toNat) (10 ^ (-exponent).toNat) := by
  unfold numeral at hLow hHigh
  have hNotZero : ¬(decide (digits = 0) ||
      decide (((Nat.toDigits 10 digits).length : Int) + exponent < -330)) = true := by
    simp only [Bool.or_eq_true, decide_eq_true_eq, not_or]
    omega
  unfold ofDecimal
  simp only [if_neg hNotZero, if_neg (Int.not_lt.2 hHigh)]
  split
  · next hSign =>
    have hDen : (-exponent).toNat = 0 := by omega
    rw [hDen, Nat.pow_zero]
  · next hSign =>
    have hNum : exponent.toNat = 0 := by omega
    rw [hNum, Nat.pow_zero, Nat.mul_one]

/-- **Moving zeros.** Zeros at the end of the digits may be moved to the exponent. -/
theorem ofDecimal_shift (negative : Bool) {digits : Nat} (hDigits : 0 < digits) (places : Nat)
    (exponent : Int) :
    ofDecimal negative (digits * 10 ^ places) (exponent - places) =
      ofDecimal negative digits exponent := by
  have hProduct : 0 < digits * 10 ^ places := Nat.mul_pos hDigits (Nat.pow_pos (by decide))
  have hLength := length_numeral_mul_pow hDigits places
  have hMagnitude : ((numeral (digits * 10 ^ places)).length : Int) + (exponent - places) =
      ((numeral digits).length : Int) + exponent := by
    rw [hLength]
    omega
  by_cases hModerate : -330 ≤ ((numeral digits).length : Int) + exponent ∧
      ((numeral digits).length : Int) + exponent ≤ 310
  · rw [ofDecimal_eq_ofRatio negative hDigits hModerate.1 hModerate.2,
      ofDecimal_eq_ofRatio negative hProduct (by omega) (by omega)]
    refine ofRatio_congr negative (Nat.pow_pos (by decide)) (Nat.pow_pos (by decide)) ?_
    rw [Nat.mul_assoc, Nat.mul_assoc, Nat.mul_assoc, ← Nat.pow_add, ← Nat.pow_add, ← Nat.pow_add]
    congr 2
    omega
  -- of numbers too small or too large only the magnitude counts, which stays
  · unfold numeral at hMagnitude hModerate
    have hNe : ¬digits * 10 ^ places = 0 := Nat.ne_of_gt hProduct
    have hNe' : ¬digits = 0 := Nat.ne_of_gt hDigits
    unfold ofDecimal
    simp only [hMagnitude, decide_eq_false hNe, decide_eq_false hNe', Bool.false_or,
      decide_eq_true_eq]
    by_cases hLow : ((Nat.toDigits 10 digits).length : Int) + exponent < -330
    · rw [if_pos hLow, if_pos hLow]
    · have hHigh : 310 < ((Nat.toDigits 10 digits).length : Int) + exponent := by omega
      rw [if_neg hLow, if_neg hLow, if_pos hHigh, if_pos hHigh]

end Binary64

/-! ## The decimal that is written -/

/-- The decimal is read as the positive number of given fields. -/
def Decimal.Reads (decimal : Decimal) (exponent : Fin 2047) (fraction : Fin (2 ^ 52)) : Prop :=
  Binary64.ofDecimal false decimal.digits decimal.exponent = .finite false exponent fraction

/-- The exact value of a number, with a power of ten as its scale if it has binary places. -/
def exactDecimal (significand : Nat) (scale : Int) : Decimal :=
  if 0 ≤ scale then ⟨significand * 2 ^ scale.toNat, 0⟩
  else ⟨significand * 5 ^ (-scale).toNat, scale⟩

/-- Powers of two and of five compare as `2 ^ 16` and `5 ^ 7` do. -/
theorem two_pow_le_five_pow {m n : Nat} (h : 7 * m ≤ 16 * n) : 2 ^ m ≤ 5 ^ n := by
  refine (Nat.pow_le_pow_iff_left (n := 7) (by decide)).1 ?_
  calc (2 ^ m) ^ 7 = 2 ^ (7 * m) := by rw [← Nat.pow_mul, Nat.mul_comm]
    _ ≤ 2 ^ (16 * n) := Nat.pow_le_pow_right (by decide) h
    _ = (2 ^ 16) ^ n := Nat.pow_mul 2 16 n
    _ ≤ (5 ^ 7) ^ n := Nat.pow_le_pow_left (by decide) n
    _ = (5 ^ n) ^ 7 := by rw [← Nat.pow_mul, ← Nat.pow_mul, Nat.mul_comm]

section exact

variable {exponent : Fin 2047} {fraction : Fin (2 ^ 52)}

open Binary64

/-- The decimal is positive, and neither too small nor too large to be read as a ratio. -/
structure Decimal.IsModerate (decimal : Decimal) : Prop where
  pos : 0 < decimal.digits
  low : -330 ≤ ((numeral decimal.digits).length : Int) + decimal.exponent
  high : ((numeral decimal.digits).length : Int) + decimal.exponent ≤ 310

/-- The exact decimal of a binary number without places is moderate. -/
theorem isModerate_integral {significand scale : Nat} (hPos : 0 < significand)
    (hSignificand : significand < 2 ^ 53) (hScale : scale ≤ 971) :
    Decimal.IsModerate ⟨significand * 2 ^ scale, 0⟩ := by
  have hLength := length_numeral_pos (significand * 2 ^ scale)
  have hBound : (numeral (significand * 2 ^ scale)).length ≤ 310 := by
    rw [length_numeral_le_iff (by decide)]
    calc significand * 2 ^ scale
        < 2 ^ 53 * 2 ^ scale := Nat.mul_lt_mul_of_pos_right hSignificand (Nat.two_pow_pos _)
      _ ≤ 2 ^ 53 * 2 ^ 971 := Nat.mul_le_mul_left _ (Nat.pow_le_pow_right (by decide) hScale)
      _ ≤ 10 ^ 310 := by decide +kernel
  refine ⟨Nat.mul_pos hPos (Nat.two_pow_pos _), ?_, ?_⟩
  · simp only
    omega
  · simp only
    omega

/-- The exact decimal of a binary number with places is moderate; every place takes a factor of
five. -/
theorem isModerate_fractional {significand places : Nat} (hPos : 0 < significand)
    (hSignificand : significand < 2 ^ 53) (hPlaces : places ≤ 1074) :
    Decimal.IsModerate ⟨significand * 5 ^ places, -places⟩ := by
  have hLength := length_numeral_pos (significand * 5 ^ places)
  have hUpper : (numeral (significand * 5 ^ places)).length ≤ places + 16 := by
    rw [length_numeral_le_iff (by omega)]
    calc significand * 5 ^ places
        < 2 ^ 53 * 5 ^ places :=
          Nat.mul_lt_mul_of_pos_right hSignificand (Nat.pow_pos (by decide))
      _ ≤ 10 ^ 16 * 10 ^ places := Nat.mul_le_mul (by decide) (Nat.pow_le_pow_left (by decide) _)
      _ = 10 ^ (places + 16) := by rw [← Nat.pow_add, Nat.add_comm]
  have hLower : 331 < places → places - 331 < (numeral (significand * 5 ^ places)).length := by
    intro hMany
    rw [← Nat.not_le, length_numeral_le_iff (by omega), Nat.not_lt]
    obtain ⟨more, rfl⟩ : ∃ more, places = 331 + more := ⟨places - 331, by omega⟩
    rw [Nat.add_sub_cancel_left]
    calc 10 ^ more = 2 ^ more * 5 ^ more := by rw [← Nat.mul_pow]
      _ ≤ 5 ^ 331 * 5 ^ more := Nat.mul_le_mul_right _ (two_pow_le_five_pow (by omega))
      _ = 5 ^ (331 + more) := by rw [Nat.pow_add]
      _ ≤ significand * 5 ^ (331 + more) := Nat.le_mul_of_pos_left _ hPos
  refine ⟨Nat.mul_pos hPos (Nat.pow_pos (by decide)), ?_, ?_⟩
  · simp only
    omega
  · simp only
    omega

/-- The exact value of a number is of moderate size. -/
theorem isModerate_exactDecimal (h : significandOf exponent fraction ≠ 0) :
    (exactDecimal (significandOf exponent fraction) (scaleOf exponent)).IsModerate := by
  have hExponent := exponent.isLt
  have hPos := Nat.pos_of_ne_zero h
  have hSize : significandOf exponent fraction < 2 ^ 53 ∧ -1074 ≤ scaleOf exponent ∧
      scaleOf exponent ≤ 971 := by
    rcases significandOf_bounds exponent fraction with ⟨-, hLt, hScale⟩ | ⟨hOwn, -, hLt, hScale⟩
    · omega
    · omega
  obtain ⟨hSignificand, hLeast, hGreatest⟩ := hSize
  unfold exactDecimal
  split
  · exact isModerate_integral hPos hSignificand (by omega)
  · next hSign =>
    obtain ⟨places, hPlaces⟩ : ∃ places : Nat, scaleOf exponent = -(places : Int) :=
      ⟨(-scaleOf exponent).toNat, by omega⟩
    rw [hPlaces, neg_neg, Int.toNat_natCast]
    exact isModerate_fractional hPos hSignificand (by omega)

/-- The exact value of a number reads as the number. -/
theorem exactDecimal_reads (h : significandOf exponent fraction ≠ 0) :
    (exactDecimal (significandOf exponent fraction) (scaleOf exponent)).Reads exponent fraction := by
  have hModerate := isModerate_exactDecimal h
  unfold Decimal.Reads
  rw [ofDecimal_eq_ofRatio false hModerate.pos hModerate.low hModerate.high,
    ← ofRatio_exact false h]
  refine ofRatio_congr false (Nat.pow_pos (by decide)) (scaleRatio_den_pos _ Nat.one_pos _) ?_
  generalize significandOf exponent fraction = significand
  generalize scaleOf exponent = scale
  unfold exactDecimal scaleRatio
  split
  · simp
  · next hSign =>
    obtain ⟨places, rfl⟩ : ∃ places : Nat, scale = -(places : Int) := ⟨(-scale).toNat, by omega⟩
    have hNum : (-(places : Int)).toNat = 0 := by omega
    simp only [neg_neg, Int.toNat_natCast, hNum, Nat.pow_zero, Nat.mul_one, Nat.one_mul]
    rw [Nat.mul_assoc, ← Nat.mul_pow]

/-- **Written decimals.** The decimal that is written for a number reads as the number. -/
theorem shortest_reads (h : significandOf exponent fraction ≠ 0) :
    (shortest (.finite false exponent fraction) (significandOf exponent fraction)
      (scaleOf exponent)).Reads exponent fraction := by
  unfold shortest
  simp only
  split
  · next decimal hFound =>
    have hReads := List.find?_some hFound
    exact eq_of_beq hReads
  · exact exactDecimal_reads h

end exact

end Crontab.Number
