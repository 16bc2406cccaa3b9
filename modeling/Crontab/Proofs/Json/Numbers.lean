import Crontab.Json.Reader
import Crontab.Json.Writer
import Crontab.Proofs.Number.Decimal
import Mathlib.Data.List.TakeWhile

/-!
# Reading numbers of JSON texts back

A number is read as long as what follows it cannot continue it.

* `Delimited` — nothing at the start of a text continues a number;
* `DecimalForm`, `formOf` — the parts of a written decimal;
* `readMagnitude_chars`, `readMagnitude_numeral` — decimals and integers;
* `number_formOf` — what the parts of a decimal are read as;
* `readAtom_signedNumeral`, `readAtom_writeFloat` — numbers with their sign.
-/

namespace Crontab.Json

open Text Number

/-! ## Digits in front of a text -/

/-- Nothing at the start of a text continues a number. -/
def Delimited (text : List Char) : Prop :=
  ∀ c ∈ text.head?, c.isDigit = false ∧ c ≠ '.' ∧ c ≠ 'e' ∧ c ≠ 'E'

section digits

variable {digits rest : List Char}

/-- Digits are taken up to the first character that is none. -/
theorem takeWhile_digits (hDigits : ∀ c ∈ digits, c.isDigit = true)
    (hRest : ∀ c ∈ rest.head?, c.isDigit = false) :
    (digits ++ rest).takeWhile Char.isDigit = digits := by
  rw [List.takeWhile_append_of_pos hDigits]
  cases rest with
  | nil => rw [List.takeWhile_nil, List.append_nil]
  | cons c tail =>
    rw [List.takeWhile_cons_of_neg (by rw [hRest c rfl]; decide), List.append_nil]

/-- What is left behind them starts with that character. -/
theorem dropWhile_digits (hDigits : ∀ c ∈ digits, c.isDigit = true)
    (hRest : ∀ c ∈ rest.head?, c.isDigit = false) :
    (digits ++ rest).dropWhile Char.isDigit = rest := by
  rw [List.dropWhile_append_of_pos hDigits]
  cases rest with
  | nil => rw [List.dropWhile_nil]
  | cons c tail => rw [List.dropWhile_cons_of_neg (by rw [hRest c rfl]; decide)]

end digits

/-! ## The parts of a written decimal -/

/-- The written parts of a decimal: the digits in front of the point and behind it, and the
exponent if there is one. -/
structure DecimalForm where
  whole : List Char
  fraction : List Char
  exponent? : Option Int

/-- The digits behind the point, after the point if there are any. -/
def fractionChars (fraction : List Char) : List Char :=
  if fraction.isEmpty then [] else '.' :: fraction

/-- The exponent after its mark and its sign. -/
def exponentChars : Option Int → List Char
  | none => []
  | some exponent => 'e' :: (if exponent < 0 then '-' else '+') :: padded 2 exponent.natAbs

namespace DecimalForm

/-- The written form. -/
def chars (form : DecimalForm) : List Char :=
  form.whole ++ (fractionChars form.fraction ++ exponentChars form.exponent?)

/-- The number that is read. -/
def number (negative : Bool) (form : DecimalForm) : Binary64 :=
  Binary64.ofDecimal negative (numeralValue (form.whole ++ form.fraction))
    (form.exponent?.getD 0 - form.fraction.length)

end DecimalForm

/-- The integer part of a number: a zero, or digits that do not start with one. -/
def IsWhole (whole : List Char) : Prop :=
  whole = ['0'] ∨ isNumeral whole = true ∧ whole.head? ≠ some '0'

/-- The parts are those of a number that is no integer. -/
structure DecimalForm.IsMarked (form : DecimalForm) : Prop where
  whole : IsWhole form.whole
  fraction : ∀ c ∈ form.fraction, c.isDigit = true
  marked : (form.fraction.isEmpty && form.exponent?.isNone) = false

section parts

variable {whole fraction rest : List Char}

/-- An integer part is read back up to what follows it. -/
theorem readWhole?_append (h : IsWhole whole) (hRest : ∀ c ∈ rest.head?, c.isDigit = false) :
    readWhole? (whole ++ rest) = some (whole, rest) := by
  rcases h with rfl | ⟨hNumeral, hHead⟩
  · rfl
  · have hDigits := isDigit_of_isNumeral hNumeral
    obtain ⟨c, tail, hCons⟩ := List.exists_cons_of_ne_nil (ne_nil_of_isNumeral hNumeral)
    have hZero : c ≠ '0' := by
      rintro rfl
      exact hHead (by rw [hCons]; rfl)
    have hDigit : c.isDigit = true := hDigits c (by rw [hCons]; exact List.mem_cons_self)
    have hTake := takeWhile_digits hDigits hRest
    have hDrop := dropWhile_digits hDigits hRest
    rw [hCons, List.cons_append] at hTake hDrop ⊢
    rw [readWhole?]
    · rw [if_pos hDigit, hTake, hDrop]
    · exact hZero

/-- Without a point there is no fraction. -/
theorem readFraction_of_head (hRest : ∀ c ∈ rest.head?, c ≠ '.') :
    readFraction rest = ([], rest) := by
  unfold readFraction
  split
  · exact absurd rfl (hRest '.' rfl)
  · rfl

/-- The digits behind the point are read back up to what follows them. -/
theorem readFraction_append (hDigits : ∀ c ∈ fraction, c.isDigit = true)
    (hRest : ∀ c ∈ rest.head?, c.isDigit = false ∧ c ≠ '.') :
    readFraction (fractionChars fraction ++ rest) = (fraction, rest) := by
  unfold fractionChars
  by_cases hEmpty : fraction.isEmpty = true
  · rw [if_pos hEmpty, List.isEmpty_iff.1 hEmpty]
    exact readFraction_of_head fun c hc => (hRest c hc).2
  · rw [if_neg hEmpty, List.cons_append, readFraction]
    simp only [takeWhile_digits hDigits fun c hc => (hRest c hc).1,
      dropWhile_digits hDigits fun c hc => (hRest c hc).1, if_neg hEmpty]

/-- Without its mark there is no exponent. -/
theorem readExponent_of_head (hRest : ∀ c ∈ rest.head?, c ≠ 'e' ∧ c ≠ 'E') :
    readExponent rest = (none, rest) := by
  unfold readExponent
  cases rest with
  | nil => rfl
  | cons c tail =>
    have hMark : ¬(c = 'e' ∨ c = 'E') := by
      rw [not_or]
      exact hRest c rfl
    simp only [if_neg hMark]

/-- An exponent is read back up to what follows it. -/
theorem readExponent_append (exponent? : Option Int) (hRest : Delimited rest) :
    readExponent (exponentChars exponent? ++ rest) = (exponent?, rest) := by
  cases exponent? with
  | none => exact readExponent_of_head fun c hc => (hRest c hc).2.2
  | some exponent =>
    have hNumeral := isNumeral_padded 2 exponent.natAbs
    have hTake := takeWhile_digits (isDigit_of_isNumeral hNumeral) fun c hc => (hRest c hc).1
    have hDrop := dropWhile_digits (isDigit_of_isNumeral hNumeral) fun c hc => (hRest c hc).1
    have hSome : ¬(padded 2 exponent.natAbs).isEmpty = true := by
      rw [List.isEmpty_iff]
      exact ne_nil_of_isNumeral hNumeral
    have hSize : (if exponent < 0 then -(exponent.natAbs : Int) else exponent.natAbs) = exponent := by
      split <;> omega
    rw [exponentChars, List.cons_append, List.cons_append]
    unfold readExponent
    by_cases hSign : exponent < 0
    · rw [if_pos hSign] at hSize ⊢
      simp only [true_or, if_true, hTake, hDrop, if_neg hSome, numeralValue_padded, hSize]
    · rw [if_neg hSign] at hSize ⊢
      simp only [true_or, if_true, hTake, hDrop, if_neg hSome, numeralValue_padded,
        Bool.false_eq_true, if_false, hSize]

end parts

/-! ## Numbers without their sign -/

section magnitude

variable {rest : List Char}

/-- What follows the digits in front of the point is no digit. -/
theorem head?_suffix (fraction : List Char) (exponent? : Option Int) (hRest : Delimited rest) :
    ∀ c ∈ (fractionChars fraction ++ (exponentChars exponent? ++ rest)).head?,
      c.isDigit = false := by
  intro c hc
  unfold fractionChars at hc
  split at hc
  · cases exponent? with
    | none => exact (hRest c hc).1
    | some exponent =>
      rw [Option.mem_some_iff.1 hc.symm]
      rfl
  · rw [Option.mem_some_iff.1 hc.symm]
    rfl

/-- An exponent, and what ends a number, starts with no digit and no point. -/
theorem head?_exponent (exponent? : Option Int) (hRest : Delimited rest) :
    ∀ c ∈ (exponentChars exponent? ++ rest).head?, c.isDigit = false ∧ c ≠ '.' := by
  intro c hc
  cases exponent? with
  | none => exact ⟨(hRest c hc).1, (hRest c hc).2.1⟩
  | some exponent =>
    rw [Option.mem_some_iff.1 hc.symm]
    exact ⟨rfl, by decide⟩

/-- **Decimals.** A written decimal is read as its number. -/
theorem readMagnitude_chars (negative : Bool) {form : DecimalForm} (h : form.IsMarked)
    (hRest : Delimited rest) :
    readMagnitude negative (form.chars ++ rest) = .ok (.float (form.number negative), rest) := by
  unfold readMagnitude DecimalForm.chars
  rw [List.append_assoc, List.append_assoc,
    readWhole?_append h.whole (head?_suffix form.fraction form.exponent? hRest)]
  simp only
  rw [readFraction_append h.fraction (head?_exponent form.exponent? hRest)]
  simp only
  rw [readExponent_append form.exponent? hRest]
  simp only
  rw [if_neg (by rw [h.marked]; decide)]
  rfl

/-- A number is written as an integer part. -/
theorem isWhole_numeral (n : Nat) : IsWhole (numeral n) := by
  rcases Nat.eq_zero_or_pos n with rfl | hPos
  · exact .inl rfl
  · exact .inr ⟨isNumeral_numeral n, head?_numeral_ne_zero hPos⟩

/-- **Integers.** A written number is read as an integer, if it does not have too many digits. -/
theorem readMagnitude_numeral (negative : Bool) {n : Nat} (h : (numeral n).length ≤ digitLimit)
    (hRest : Delimited rest) :
    readMagnitude negative (numeral n ++ rest) =
      .ok (.int (if negative then -(n : Int) else n), rest) := by
  unfold readMagnitude
  rw [readWhole?_append (isWhole_numeral n) fun c hc => (hRest c hc).1]
  simp only
  rw [readFraction_of_head fun c hc => (hRest c hc).2.1]
  simp only
  rw [readExponent_of_head fun c hc => (hRest c hc).2.2]
  simp only
  rw [if_pos (by rfl), readNumeral, if_neg (Nat.not_lt.2 h), numeralValue_numeral]

end magnitude

/-! ## The form of a decimal -/

/-- The parts in which a decimal is written. -/
def formOf (decimal : Decimal) : DecimalForm :=
  let all := numeral decimal.digits
  let exponent : Int := all.length + decimal.exponent - 1
  let digits := trimZeros all
  if leastPositional ≤ exponent ∧ exponent < firstScientific then
    if 0 ≤ exponent then
      let whole := (exponent + 1).toNat
      let front := digits.take whole
      let back := digits.drop whole
      { whole := front ++ List.replicate (whole - front.length) '0'
        fraction := if back.isEmpty then ['0'] else back
        exponent? := none }
    else
      { whole := ['0']
        fraction := List.replicate (-exponent - 1).toNat '0' ++ digits
        exponent? := none }
  else { whole := digits.take 1, fraction := digits.drop 1, exponent? := some exponent }

/-- What is trimmed off is zeros. -/
theorem exists_trimZeros (text : List Char) :
    ∃ count, text = trimZeros text ++ List.replicate count '0' := by
  have hZeros : ∀ c ∈ text.reverse.takeWhile (· == '0'), c = '0' := fun c hc =>
    eq_of_beq (List.mem_takeWhile_imp (p := (· == '0')) hc)
  refine ⟨(text.reverse.takeWhile (· == '0')).length, ?_⟩
  calc text = (text.reverse.takeWhile (· == '0') ++ text.reverse.dropWhile (· == '0')).reverse := by
        rw [List.takeWhile_append_dropWhile, List.reverse_reverse]
    _ = trimZeros text ++ List.replicate (text.reverse.takeWhile (· == '0')).length '0' := by
        rw [List.reverse_append, trimZeros, List.eq_replicate_of_mem hZeros, List.length_replicate,
          List.reverse_replicate]

section form

variable {decimal : Decimal}

/-- The digits of a decimal without the zeros at the end: they do not start with a zero, and with
the point in its place they are the same decimal. -/
theorem trimZeros_spec (h : 0 < decimal.digits) :
    isNumeral (trimZeros (numeral decimal.digits)) = true ∧
      (trimZeros (numeral decimal.digits)).head? ≠ some '0' ∧
      ∀ (negative : Bool) (places : Nat),
        Binary64.ofDecimal negative
            (numeralValue (trimZeros (numeral decimal.digits)) * 10 ^ places)
            ((numeral decimal.digits).length + decimal.exponent -
              (trimZeros (numeral decimal.digits)).length - places) =
          Binary64.ofDecimal negative decimal.digits decimal.exponent := by
  obtain ⟨count, hAll⟩ := exists_trimZeros (numeral decimal.digits)
  have hHead := head?_numeral_ne_zero h
  have hValue := numeralValue_numeral decimal.digits
  have hDigits := isDigit_of_isNumeral (isNumeral_numeral decimal.digits)
  rw [hAll, numeralValue_append_zeros] at hValue
  have hLength := congrArg List.length hAll
  rw [List.length_append, List.length_replicate] at hLength
  generalize trimZeros (numeral decimal.digits) = digits at *
  have hPos : 0 < numeralValue digits := by
    refine Nat.pos_of_ne_zero fun hZero => ?_
    rw [hZero, Nat.zero_mul] at hValue
    omega
  have hNe : digits ≠ [] := by
    rintro rfl
    cases hPos
  refine ⟨isNumeral_iff.2 ⟨hNe, fun c hc => ?_⟩, ?_, fun negative places => ?_⟩
  · exact hDigits c (by rw [hAll]; exact List.mem_append_left _ hc)
  · rwa [hAll, List.head?_append_of_ne_nil _ hNe] at hHead
  · have hExponent : ((numeral decimal.digits).length : Int) + decimal.exponent - digits.length =
        decimal.exponent + count := by
      omega
    rw [hExponent, Binary64.ofDecimal_shift negative hPos places, ← hValue,
      ← Binary64.ofDecimal_shift negative hPos count, Int.add_sub_cancel]

/-- Digits behind the point are written after one. -/
theorem fractionChars_of_ne_nil {fraction : List Char} (h : fraction ≠ []) :
    fractionChars fraction = '.' :: fraction := by
  rw [fractionChars, if_neg (by rwa [List.isEmpty_iff])]

/-- The parts of a decimal make up its text. -/
theorem formOf_chars (h : 0 < decimal.digits) : (formOf decimal).chars = decimal.text := by
  have hDigits := ne_nil_of_isNumeral (trimZeros_spec h).1
  have hBack : ∀ back : List Char, (if back.isEmpty then ['0'] else back) ≠ [] := by
    intro back
    cases back <;> simp
  unfold formOf Decimal.text DecimalForm.chars
  simp only
  split
  · split
    · simp only
      rw [fractionChars_of_ne_nil (hBack _), exponentChars, List.append_nil]
    · simp only
      rw [fractionChars_of_ne_nil (List.append_ne_nil_of_right_ne_nil _ hDigits), exponentChars,
        List.append_nil]
      rfl
  · rw [exponentChars, fractionChars, List.append_assoc]

/-- The first digits of a numeral without zeros in front are an integer part, and stay one with
zeros behind them. -/
theorem isWhole_take {digits : List Char} (hNumeral : isNumeral digits = true)
    (hHead : digits.head? ≠ some '0') {count : Nat} (hCount : 0 < count) (zeros : Nat) :
    IsWhole (digits.take count ++ List.replicate zeros '0') := by
  obtain ⟨c, tail, rfl⟩ := List.exists_cons_of_ne_nil (ne_nil_of_isNumeral hNumeral)
  obtain ⟨count, rfl⟩ := Nat.exists_eq_succ_of_ne_zero (Nat.ne_of_gt hCount)
  refine .inr ⟨isNumeral_iff.2 ⟨by simp, fun d hd => ?_⟩, hHead⟩
  rcases List.mem_append.1 hd with hTake | hZero
  · exact isDigit_of_isNumeral hNumeral d (List.mem_of_mem_take hTake)
  · rw [List.eq_of_mem_replicate hZero]
    rfl

/-- The parts of a decimal are those of a number with a fraction or an exponent. -/
theorem formOf_isMarked (h : 0 < decimal.digits) : (formOf decimal).IsMarked := by
  obtain ⟨hNumeral, hHead, -⟩ := trimZeros_spec h
  have hDigits := isDigit_of_isNumeral hNumeral
  unfold formOf
  simp only
  split
  · split
    · next hSign =>
      refine ⟨isWhole_take hNumeral hHead (by omega) _, fun c hc => ?_, ?_⟩
      · simp only at hc
        split at hc
        · rw [List.mem_singleton.1 hc]
          rfl
        · exact hDigits c (List.mem_of_mem_drop hc)
      · simp only
        split
        · rfl
        · next hSome => rw [Bool.eq_false_iff.2 hSome, Bool.false_and]
    · refine ⟨.inl rfl, fun c hc => ?_, ?_⟩
      · rcases List.mem_append.1 hc with hZero | hDigit
        · rw [List.eq_of_mem_replicate hZero]
          rfl
        · exact hDigits c hDigit
      · have hNe := ne_nil_of_isNumeral hNumeral
        simp [hNe]
  · refine ⟨?_, fun c hc => hDigits c (List.mem_of_mem_drop hc), by simp⟩
    have hTake := isWhole_take hNumeral hHead Nat.one_pos 0
    rwa [List.replicate_zero, List.append_nil] at hTake

/-- **Forms of decimals.** What the parts of a decimal are read as is the decimal itself. -/
theorem number_formOf (negative : Bool) (h : 0 < decimal.digits) :
    (formOf decimal).number negative =
      Binary64.ofDecimal negative decimal.digits decimal.exponent := by
  obtain ⟨hNumeral, -, hSpec⟩ := trimZeros_spec h
  unfold formOf DecimalForm.number
  simp only
  generalize trimZeros (numeral decimal.digits) = digits at *
  generalize hPoint : ((numeral decimal.digits).length : Int) + decimal.exponent = point at *
  have hPlain := hSpec negative 0
  rw [Nat.pow_zero, Nat.mul_one] at hPlain
  split
  · split
    · next hSign =>
      obtain ⟨whole, rfl⟩ : ∃ whole : Nat, point = whole := ⟨point.toNat, by omega⟩
      have hCount : ((whole : Int) - 1 + 1).toNat = whole := by omega
      simp only [hCount, Option.getD_none, List.length_take]
      by_cases hMore : whole < digits.length
      · have hBack : ¬(digits.drop whole).isEmpty = true := by
          rw [List.isEmpty_iff, List.drop_eq_nil_iff]
          omega
        rw [if_neg hBack, Nat.min_eq_left (by omega), Nat.sub_self, List.replicate_zero,
          List.append_nil, List.take_append_drop, ← hPlain, List.length_drop]
        congr 1
        omega
      · have hBack : digits.drop whole = [] := List.drop_eq_nil_iff.2 (by omega)
        have hZeros : digits ++ List.replicate (whole - digits.length) '0' ++ ['0'] =
            digits ++ List.replicate (whole - digits.length + 1) '0' := by
          rw [List.replicate_succ', List.append_assoc]
        rw [hBack, List.take_of_length_le (by omega), Nat.min_eq_right (by omega),
          if_pos List.isEmpty_nil, hZeros, numeralValue_append_zeros, List.length_singleton,
          ← hSpec negative (whole - digits.length + 1)]
        congr 1
        omega
    · next hSign =>
      rw [numeralValue_append, numeralValue_zeros_append, ← hPlain, List.length_append,
        List.length_replicate, Option.getD_none]
      have hZero : numeralValue ['0'] = 0 := rfl
      rw [hZero, Nat.zero_mul, Nat.zero_add]
      congr 1
      omega
  · rw [List.take_append_drop, ← hPlain, Option.getD_some, List.length_drop]
    have hLength := List.length_pos_iff.2 (ne_nil_of_isNumeral hNumeral)
    congr 1
    omega

end form

/-! ## Numbers with their sign -/

section atoms

variable {rest : List Char}

/-- What starts with a digit is read as a number. -/
theorem readAtom_of_isDigit {c : Char} (h : c.isDigit = true) :
    readAtom (c :: rest) = readMagnitude false (c :: rest) := by
  have hNot : ∀ d : Char, d.isDigit = false → d ≠ c := by
    rintro d hd rfl
    rw [hd] at h
    cases h
  have hNone : ∀ literal ∈ literals, after? literal.1 (c :: rest) = none := by
    simp [literals, after?, hNot _ (show Char.isDigit 'n' = false from rfl),
      hNot _ (show Char.isDigit 't' = false from rfl),
      hNot _ (show Char.isDigit 'f' = false from rfl),
      hNot _ (show Char.isDigit 'N' = false from rfl),
      hNot _ (show Char.isDigit 'I' = false from rfl),
      hNot _ (show Char.isDigit '-' = false from rfl)]
  rw [readAtom, List.findSome?_eq_none_iff.2 ?_]
  · intro literal hLiteral
    exact congrArg (Option.map _) (hNone literal hLiteral)
  · intro tail hFirst
    exact hNot '-' rfl (List.cons.inj hFirst).1.symm

/-- What starts with a minus sign in front of a digit is read as a negative number. -/
theorem readAtom_minus {c : Char} (h : c.isDigit = true) :
    readAtom ('-' :: c :: rest) = readMagnitude true (c :: rest) := by
  have hNot : 'I' ≠ c := by
    rintro rfl
    cases h
  have hNone : ∀ literal ∈ literals, after? literal.1 ('-' :: c :: rest) = none := by
    simp [literals, after?, hNot]
  rw [readAtom, List.findSome?_eq_none_iff.2 ?_]
  intro literal hLiteral
  exact congrArg (Option.map _) (hNone literal hLiteral)

/-- A number without its sign is read behind a minus sign as the negative one. -/
theorem readAtom_signed (negative : Bool) {text : List Char}
    (hDigit : ∀ c ∈ text.head?, c.isDigit = true) (hNe : text ≠ []) :
    readAtom ((if negative then ['-'] else []) ++ (text ++ rest)) =
      readMagnitude negative (text ++ rest) := by
  obtain ⟨c, tail, rfl⟩ := List.exists_cons_of_ne_nil hNe
  cases negative with
  | false => exact readAtom_of_isDigit (hDigit c rfl)
  | true => exact readAtom_minus (hDigit c rfl)

/-- **Integers.** A written integer is read back, if it does not have too many digits. -/
theorem readAtom_signedNumeral {n : Int} (h : (numeral n.natAbs).length ≤ digitLimit)
    (hRest : Delimited rest) : readAtom (signedNumeral n ++ rest) = .ok (.int n, rest) := by
  have hNumeral := isNumeral_numeral n.natAbs
  have hText : signedNumeral n ++ rest =
      (if decide (n < 0) then ['-'] else []) ++ (numeral n.natAbs ++ rest) := by
    unfold signedNumeral
    by_cases hSign : n < 0
    · rw [if_pos hSign, decide_eq_true hSign]
      rfl
    · rw [if_neg hSign, decide_eq_false hSign]
      rfl
  rw [hText, readAtom_signed _ (fun c hc =>
      isDigit_of_isNumeral hNumeral c (List.mem_of_mem_head? hc)) (ne_nil_of_isNumeral hNumeral),
    readMagnitude_numeral _ h hRest]
  congr 4
  by_cases hSign : n < 0
  · rw [decide_eq_true hSign, if_pos rfl]
    omega
  · rw [decide_eq_false hSign, if_neg (by decide)]
    omega

/-- A number starts with a digit. -/
theorem DecimalForm.head?_chars {form : DecimalForm} (h : form.IsMarked) :
    form.chars ≠ [] ∧ ∀ c ∈ form.chars.head?, c.isDigit = true := by
  have hWhole : isNumeral form.whole = true := by
    rcases h.whole with hZero | ⟨hNumeral, -⟩
    · rw [hZero]
      rfl
    · exact hNumeral
  have hNe := ne_nil_of_isNumeral hWhole
  refine ⟨List.append_ne_nil_of_left_ne_nil hNe _, fun c hc => ?_⟩
  rw [DecimalForm.chars, List.head?_append_of_ne_nil _ hNe] at hc
  exact isDigit_of_isNumeral hWhole c (List.mem_of_mem_head? hc)

open Binary64 in
/-- The parts in which a finite number is written are read as the number. -/
theorem exists_form (exponent : Fin 2047) (fraction : Fin (2 ^ 52)) :
    ∃ form : DecimalForm, form.IsMarked ∧ form.chars = finiteText exponent fraction ∧
      ∀ negative, form.number negative = .finite negative exponent fraction := by
  unfold finiteText
  by_cases hZero : significandOf exponent fraction = 0
  · refine ⟨⟨['0'], ['0'], none⟩, ⟨.inl rfl, List.forall_mem_singleton.2 rfl, rfl⟩,
      by rw [if_pos hZero]; rfl, ?_⟩
    intro negative
    obtain ⟨hExponent, hFraction⟩ : exponent = ⟨0, by decide⟩ ∧ fraction = ⟨0, by decide⟩ := by
      unfold significandOf at hZero
      split at hZero
      · next hExponent => exact ⟨Fin.ext hExponent, Fin.ext hZero⟩
      · exact absurd hZero (by omega)
    rw [hExponent, hFraction]
    rfl
  · have hReads := shortest_reads hZero
    rw [if_neg hZero]
    generalize shortest _ _ _ = decimal at *
    have hPos : 0 < decimal.digits := by
      refine Nat.pos_of_ne_zero fun hDigits => hZero ?_
      unfold Decimal.Reads at hReads
      rw [hDigits] at hReads
      injection hReads with _ hExponent hFraction
      rw [← hExponent, ← hFraction]
      rfl
    refine ⟨formOf decimal, formOf_isMarked hPos, formOf_chars hPos, fun negative => ?_⟩
    rw [number_formOf negative hPos, ofDecimal_signed, hReads]
    cases negative <;> rfl

/-- **Floating point numbers.** A written floating point number is read back. -/
theorem readAtom_writeFloat (x : Binary64) (hRest : Delimited rest) :
    readAtom (writeFloat x ++ rest) = .ok (.float x, rest) := by
  cases x with
  | nan => rfl
  | infinity negative => cases negative <;> rfl
  | finite negative exponent fraction =>
    obtain ⟨form, hMarked, hChars, hNumber⟩ := exists_form exponent fraction
    obtain ⟨hNe, hDigit⟩ := DecimalForm.head?_chars hMarked
    have hText : writeFloat (.finite negative exponent fraction) =
        (if negative then ['-'] else []) ++ form.chars := by
      rw [hChars]
      rfl
    rw [hText, List.append_assoc, readAtom_signed negative hDigit hNe,
      readMagnitude_chars negative hMarked hRest, hNumber]

end atoms

end Crontab.Json
