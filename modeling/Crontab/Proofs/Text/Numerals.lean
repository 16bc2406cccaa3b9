import Crontab.Text.Numeral
import Mathlib.Algebra.Group.Nat.Defs

/-!
# Numerals and their values

* `numeralValue_append` — the value of a numeral in two parts;
* `length_numeral_le_iff`, `length_numeral_mul_pow` — the number of digits of a number;
* `length_padded`, `isNumeral_padded`, `numeralValue_padded` — numerals of a fixed number of digits.
-/

namespace Crontab.Text

/-! ## Texts of digits -/

/-- A numeral has digits, and nothing else. -/
theorem isNumeral_iff {text : List Char} :
    isNumeral text = true ↔ text ≠ [] ∧ ∀ c ∈ text, c.isDigit = true := by
  simp [isNumeral]

/-- A numeral has nothing but digits. -/
theorem isDigit_of_isNumeral {text : List Char} (h : isNumeral text = true) :
    ∀ c ∈ text, c.isDigit = true :=
  (isNumeral_iff.1 h).2

theorem ne_nil_of_isNumeral {text : List Char} (h : isNumeral text = true) : text ≠ [] :=
  (isNumeral_iff.1 h).1

/-- What is no digit does not occur in a numeral. -/
theorem not_mem_of_isNumeral {text : List Char} (h : isNumeral text = true) {c : Char}
    (hc : c.isDigit = false) : c ∉ text := by
  intro hMem
  simp [isDigit_of_isNumeral h c hMem] at hc

/-- A number is written in digits. -/
theorem isDigit_of_mem_numeral {n : Nat} {c : Char} (h : c ∈ numeral n) : c.isDigit = true :=
  isDigit_of_isNumeral (isNumeral_numeral n) c h

/-! ## Values -/

/-- The digits in front count as often as there are places behind them. -/
theorem numeralValue_append (front back : List Char) :
    numeralValue (front ++ back) =
      numeralValue front * 10 ^ back.length + numeralValue back := by
  rw [numeralValue, Nat.ofDigitChars_append, Nat.ofDigitChars_eq_ofDigitChars_zero, Nat.mul_comm]
  rfl

/-- Zeros alone stand for zero. -/
theorem numeralValue_replicate_zero (count : Nat) :
    numeralValue (List.replicate count '0') = 0 := by
  rw [numeralValue, Nat.ofDigitChars_replicate_zero, Nat.mul_zero]

/-- Zeros in front do not count. -/
theorem numeralValue_zeros_append (count : Nat) (text : List Char) :
    numeralValue (List.replicate count '0' ++ text) = numeralValue text := by
  rw [numeralValue_append, numeralValue_replicate_zero, Nat.zero_mul, Nat.zero_add]

/-- Zeros behind count as powers of ten. -/
theorem numeralValue_append_zeros (text : List Char) (count : Nat) :
    numeralValue (text ++ List.replicate count '0') = numeralValue text * 10 ^ count := by
  rw [numeralValue_append, numeralValue_replicate_zero, List.length_replicate, Nat.add_zero]

/-! ## The number of digits -/

theorem length_numeral_pos (n : Nat) : 0 < (numeral n).length :=
  Nat.length_toDigits_pos

/-- A number has at most so many digits exactly if it is less than that power of ten. -/
theorem length_numeral_le_iff {n width : Nat} (hWidth : 0 < width) :
    (numeral n).length ≤ width ↔ n < 10 ^ width :=
  Nat.length_toDigits_le_iff (by decide) hWidth

/-- Digits stand for less than the power of ten of their number. -/
theorem numeralValue_lt {text : List Char} (h : ∀ c ∈ text, c.isDigit = true) :
    numeralValue text < 10 ^ text.length := by
  induction text with
  | nil => exact Nat.one_pos
  | cons c rest ih =>
    rw [List.forall_mem_cons] at h
    have hDigit : numeralValue [c] < 10 := by
      have hRange : 48 ≤ c.toNat ∧ c.toNat ≤ 57 := by
        simpa [Char.isDigit, UInt32.le_iff_toNat_le] using h.1
      simp only [numeralValue, Nat.ofDigitChars, List.foldl_cons, List.foldl_nil]
      have : ('0' : Char).toNat = 48 := rfl
      omega
    have hRest := ih h.2
    rw [← List.singleton_append, numeralValue_append, List.length_append, List.length_singleton,
      Nat.pow_add, Nat.pow_one]
    calc numeralValue [c] * 10 ^ rest.length + numeralValue rest
        < numeralValue [c] * 10 ^ rest.length + 10 ^ rest.length := Nat.add_lt_add_left hRest _
      _ = (numeralValue [c] + 1) * 10 ^ rest.length := by rw [Nat.add_mul, Nat.one_mul]
      _ ≤ 10 * 10 ^ rest.length := Nat.mul_le_mul_right _ hDigit

/-- Multiplying a number by a power of ten adds as many digits. -/
theorem length_numeral_mul_pow {n : Nat} (h : 0 < n) (places : Nat) :
    (numeral (n * 10 ^ places)).length = (numeral n).length + places := by
  have hPower : 0 < 10 ^ places := Nat.pow_pos (by decide)
  have hLength := length_numeral_pos n
  have hUpper : (numeral (n * 10 ^ places)).length ≤ (numeral n).length + places := by
    rw [length_numeral_le_iff (by omega), Nat.pow_add]
    exact Nat.mul_lt_mul_of_pos_right ((length_numeral_le_iff hLength).1 (Nat.le_refl _)) hPower
  refine Nat.le_antisymm hUpper (Nat.not_lt.1 fun hLt => ?_)
  have hProduct := length_numeral_pos (n * 10 ^ places)
  have hShort : n * 10 ^ places < 10 ^ ((numeral n).length - 1 + places) :=
    (length_numeral_le_iff (by omega)).1 (by omega)
  rw [Nat.pow_add] at hShort
  have hSmall := Nat.lt_of_mul_lt_mul_right hShort
  rcases Nat.eq_or_lt_of_le hLength with hOne | hMore
  · have hZero : (numeral n).length - 1 = 0 := by omega
    rw [hZero, Nat.pow_zero] at hSmall
    omega
  · have hLess : (numeral n).length ≤ (numeral n).length - 1 :=
      (length_numeral_le_iff (by omega)).2 hSmall
    omega

/-- A number that is not zero does not start with a zero. -/
theorem head?_numeral_ne_zero {n : Nat} (h : 0 < n) : (numeral n).head? ≠ some '0' := by
  intro hHead
  obtain ⟨rest, hRest⟩ : ∃ rest, numeral n = '0' :: rest := by
    cases hNumeral : numeral n with
    | nil => rw [hNumeral] at hHead; cases hHead
    | cons c rest =>
      rw [hNumeral] at hHead
      exact ⟨rest, by rw [Option.some.inj hHead]⟩
  have hDigits : ∀ c ∈ rest, c.isDigit = true := fun c hc =>
    isDigit_of_mem_numeral (n := n) (by rw [hRest]; exact List.mem_cons_of_mem _ hc)
  have hValue : n = numeralValue rest := by
    rw [← numeralValue_numeral n, hRest]
    exact numeralValue_zeros_append 1 rest
  have hLt := numeralValue_lt hDigits
  rw [← hValue] at hLt
  rcases Nat.eq_zero_or_pos rest.length with hNil | hPos
  · rw [hNil] at hLt
    omega
  · have := (length_numeral_le_iff hPos).2 hLt
    rw [hRest, List.length_cons] at this
    omega

/-! ## Padded numerals -/

section padded

variable {width n : Nat}

/-- Zeros in front do not change the number that is read. -/
theorem numeralValue_padded (width n : Nat) : numeralValue (padded width n) = n := by
  rw [padded, fillStart, numeralValue_zeros_append, numeralValue_numeral]

/-- A number with zeros in front is written in digits. -/
theorem isNumeral_padded (width n : Nat) : isNumeral (padded width n) = true := by
  rw [isNumeral_iff, padded, fillStart]
  refine ⟨?_, fun c hc => ?_⟩
  · exact List.append_ne_nil_of_right_ne_nil _ (ne_nil_of_isNumeral (isNumeral_numeral n))
  · rcases List.mem_append.1 hc with hZero | hDigit
    · rw [List.eq_of_mem_replicate hZero]
      rfl
    · exact isDigit_of_mem_numeral hDigit

/-- A number that fits is written in exactly the given width. -/
theorem length_padded (hWidth : 0 < width) (h : n < 10 ^ width) :
    (padded width n).length = width := by
  have hLength := (length_numeral_le_iff hWidth).2 h
  rw [padded, fillStart, List.length_append, List.length_replicate]
  omega

end padded

end Crontab.Text
