import Crontab.Json.Reader
import Crontab.Json.Writer
import Mathlib.Tactic.SplitIfs

/-!
# Reading texts of JSON texts back

A written text is read character by character, each from its escape.

* `readUnit?_hexadecimal` — a code unit from its four digits;
* `escape_cases` — a character is written as it is, or behind a backslash as an escape of its own;
* `readText_escaped` — a whole text.
-/

namespace Crontab.Json

open Text

/-! ## Hexadecimal digits -/

section hexadecimal

variable {n : Nat}

/-- A hexadecimal digit is read back. -/
theorem hexDigit?_digitChar (h : n < 16) : hexDigit? n.digitChar = some n := by
  revert h
  decide +revert

/-- All digits but the last one are those of the quotient by 16. -/
theorem hexadecimal_succ (width n : Nat) :
    hexadecimal (width + 2) n = hexadecimal (width + 1) (n / 16) ++ [(n % 16).digitChar] := by
  unfold hexadecimal fillStart
  by_cases h : n < 16
  · rw [Nat.toDigits_of_lt_base h, Nat.div_eq_of_lt h, Nat.mod_eq_of_lt h, Nat.toDigits_zero]
    simp [List.replicate_succ']
  · rw [Nat.toDigits_of_base_le (by decide) (Nat.not_lt.1 h)]
    simp

/-- A unit is written in four hexadecimal digits. -/
theorem hexadecimal_four (h : n < 0x10000) :
    hexadecimal 4 n = [(n / 16 / 16 / 16).digitChar, (n / 16 / 16 % 16).digitChar,
      (n / 16 % 16).digitChar, (n % 16).digitChar] := by
  have hFirst : hexadecimal 1 (n / 16 / 16 / 16) = [(n / 16 / 16 / 16).digitChar] := by
    unfold hexadecimal fillStart
    rw [Nat.toDigits_of_lt_base (by omega)]
    rfl
  rw [hexadecimal_succ 2, hexadecimal_succ 1, hexadecimal_succ 0, hFirst]
  rfl

/-- A code unit is read from its four digits. -/
theorem readUnit?_hexadecimal (h : n < 0x10000) (rest : List Char) :
    readUnit? (hexadecimal 4 n ++ rest) = some (n, rest) := by
  have hValue : ((n / 16 / 16 / 16 * 16 + n / 16 / 16 % 16) * 16 + n / 16 % 16) * 16 + n % 16 = n := by
    omega
  rw [hexadecimal_four h, List.cons_append, List.cons_append, List.cons_append, List.cons_append,
    List.nil_append, readUnit?, hexDigit?_digitChar (by omega), hexDigit?_digitChar (by omega),
    hexDigit?_digitChar (by omega), hexDigit?_digitChar (by omega)]
  simp only [Option.bind_eq_bind, Option.bind_some, hValue]
  rfl

end hexadecimal

/-! ## Escapes -/

section escapes

variable {c : Char}

/-- An escaped unit is its mark and its digits, whatever follows. -/
theorem escapeUnit_append (unit : Nat) (rest : List Char) :
    escapeUnit unit ++ rest = backslash :: 'u' :: (hexadecimal 4 unit ++ rest) := rfl

/-- A character of the basic plane is read from its code unit. -/
theorem readEscape?_unit (h : c.toNat < 0x10000) (rest : List Char) :
    readEscape? ('u' :: (hexadecimal 4 c.toNat ++ rest)) = some (c, rest) := by
  have hValid : c.toNat < 0xD800 ∨ 0xDFFF < c.toNat ∧ c.toNat < 0x110000 := c.valid
  have hHigh : ¬(0xD800 ≤ c.toNat ∧ c.toNat < 0xDC00) := by omega
  have hLow : ¬(0xDC00 ≤ c.toNat ∧ c.toNat < 0xE000) := by omega
  rw [readEscape?, readUnit?_hexadecimal h]
  simp only
  rw [if_neg hHigh, if_neg hLow, Char.ofNat_toNat]

/-- A character beyond the basic plane is read from its two surrogates. -/
theorem readEscape?_surrogates (h : ¬c.toNat < 0x10000) (rest : List Char) :
    readEscape? ('u' :: (hexadecimal 4 (0xD800 + (c.toNat - 0x10000) / 0x400) ++
      (escapeUnit (0xDC00 + (c.toNat - 0x10000) % 0x400) ++ rest))) = some (c, rest) := by
  have hValid : c.toNat < 0xD800 ∨ 0xDFFF < c.toNat ∧ c.toNat < 0x110000 := c.valid
  have hLow : readLowUnit? (escapeUnit (0xDC00 + (c.toNat - 0x10000) % 0x400) ++ rest) =
      some (0xDC00 + (c.toNat - 0x10000) % 0x400, rest) := by
    have hRead := readUnit?_hexadecimal
      (n := 0xDC00 + (c.toNat - 0x10000) % 0x400) (by omega) rest
    rw [escapeUnit_append, backslash, readLowUnit?, hRead]
    simp only
    rw [if_pos (by omega)]
  have hValue : 0x10000 + (0xD800 + (c.toNat - 0x10000) / 0x400 - 0xD800) * 0x400 +
      (0xDC00 + (c.toNat - 0x10000) % 0x400 - 0xDC00) = c.toNat := by
    omega
  rw [readEscape?, readUnit?_hexadecimal (by omega)]
  simp only
  rw [if_pos (by omega), hLow]
  simp only
  rw [hValue, Char.ofNat_toNat]

/-- A letter other than `u` stands for a character of its own. -/
theorem readEscape?_short {letter : Char} (hLetter : letter ≠ 'u')
    (h : shortEscape? letter = some c) (rest : List Char) :
    readEscape? (letter :: rest) = some (c, rest) := by
  rw [readEscape?, h]
  · rfl
  · exact hLetter

/-- **Escapes.** A character is written as it is, or behind a backslash in a form that is read as
the character. -/
theorem escape_cases (c : Char) :
    (∃ form, escape c = backslash :: form ∧
      ∀ rest, readEscape? (form ++ rest) = some (c, rest)) ∨
    escape c = [c] ∧ c ≠ doubleQuote ∧ c ≠ backslash ∧ ¬c.toNat < 0x20 := by
  have hShort : ∀ letter : Char, letter ≠ 'u' → shortEscape? letter = some c →
      ∀ rest, readEscape? ([letter] ++ rest) = some (c, rest) := fun letter hLetter h rest =>
    readEscape?_short hLetter h rest
  have hNumber : ∀ n : Nat, c.toNat = n → c = Char.ofNat n := by
    rintro n rfl
    exact (Char.ofNat_toNat c).symm
  unfold escape
  split_ifs with hQuote hLine hReturn hTab hPage hBack hPlain hBasic
  · refine .inl ⟨[c], rfl, hShort c ?_ ?_⟩
    · rintro rfl
      cases hQuote
    · have hOwn : c = doubleQuote ∨ c = backslash ∨ c = '/' := by
        simp only [Bool.or_eq_true, decide_eq_true_eq] at hQuote
        exact hQuote.imp_right .inl
      rw [shortEscape?, if_pos hOwn]
  · exact .inl ⟨['n'], rfl, hShort 'n' (by decide) (by rw [hLine]; rfl)⟩
  · exact .inl ⟨['r'], rfl, hShort 'r' (by decide) (by rw [hReturn]; rfl)⟩
  · exact .inl ⟨['t'], rfl, hShort 't' (by decide) (by rw [hTab]; rfl)⟩
  · exact .inl ⟨['f'], rfl, hShort 'f' (by decide) (by rw [hNumber _ hPage]; rfl)⟩
  · exact .inl ⟨['b'], rfl, hShort 'b' (by decide) (by rw [hNumber _ hBack]; rfl)⟩
  · simp only [Bool.or_eq_true, decide_eq_true_eq, not_or] at hQuote
    simp only [Bool.and_eq_true, decide_eq_true_eq] at hPlain
    exact .inr ⟨rfl, hQuote.1, hQuote.2, by omega⟩
  · exact .inl ⟨_, rfl, readEscape?_unit hBasic⟩
  · refine .inl ⟨_, escapeUnit_append _ _, fun rest => ?_⟩
    rw [List.cons_append, List.append_assoc]
    exact readEscape?_surrogates hBasic rest

/-- Every character is written as something. -/
theorem escape_ne_nil (c : Char) : escape c ≠ [] := by
  rcases escape_cases c with ⟨form, hForm, -⟩ | ⟨hSelf, -⟩
  · rw [hForm]
    simp
  · rw [hSelf]
    simp

end escapes

/-! ## Texts -/

section texts

variable {bound : Nat} {rest : List Char}

/-- One character is read from its written form. -/
theorem readChars_escape (bound : Nat) (front : List Char) (c : Char) (rest : List Char) :
    readChars (bound + 1) front (escape c ++ rest) = readChars bound (c :: front) rest := by
  rcases escape_cases c with ⟨form, hForm, hRead⟩ | ⟨hSelf, hQuote, hBackslash, hPlain⟩
  · rw [hForm, List.cons_append, readChars, if_neg (by decide), if_pos rfl, hRead]
  · rw [hSelf, List.singleton_append, readChars, if_neg hQuote, if_neg hBackslash, if_neg hPlain]

/-- Characters are read back from their escaped form up to the closing quote. -/
theorem readChars_flatMap (chars : List Char) (front : List Char) (h : chars.length < bound) :
    readChars bound front (chars.flatMap escape ++ doubleQuote :: rest) =
      .ok (front.reverse ++ chars, rest) := by
  induction chars generalizing bound front with
  | nil =>
    obtain ⟨bound, rfl⟩ := Nat.exists_eq_succ_of_ne_zero (Nat.ne_of_gt h)
    rw [List.flatMap_nil, List.nil_append, readChars, if_pos rfl, List.append_nil]
  | cons c chars ih =>
    rw [List.length_cons] at h
    obtain ⟨bound, rfl⟩ := Nat.exists_eq_succ_of_ne_zero (Nat.ne_of_gt (Nat.zero_lt_of_lt h))
    rw [List.flatMap_cons, List.append_assoc, readChars_escape,
      ih (c :: front) (Nat.lt_of_succ_lt_succ h), List.reverse_cons, List.append_assoc]
    rfl

/-- Escaping makes no text shorter. -/
theorem length_le_flatMap_escape (chars : List Char) :
    chars.length ≤ (chars.flatMap escape).length := by
  induction chars with
  | nil => exact Nat.le_refl _
  | cons c chars ih =>
    have := List.length_pos_iff.2 (escape_ne_nil c)
    rw [List.flatMap_cons, List.length_append, List.length_cons]
    omega

/-- **Texts.** A written text is read back. -/
theorem readText_escaped (text : String) (rest : List Char) :
    readText (text.toList.flatMap escape ++ doubleQuote :: rest) = .ok (text, rest) := by
  have hBound := length_le_flatMap_escape text.toList
  rw [readText, readChars_flatMap text.toList [] (by rw [List.length_append]; omega)]
  simp only [Except.map, List.reverse_nil, List.nil_append, String.ofList_toList]

end texts

end Crontab.Json
