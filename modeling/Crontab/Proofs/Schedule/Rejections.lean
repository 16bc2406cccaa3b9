import Crontab.Proofs.Schedule.Grammar
import Crontab.Schedule.Upcoming

/-!
# Rejected expressions

An expression is a schedule if it has five words and each of them is read as its field.  If one of five
words is rejected, the error is that of the leftmost one, and it comes from the leftmost of its items
that is not in the grammar.

* `Schedule.IsReadFrom` — a schedule and the words that its fields are read from;
* `IsRejectedFirst`, `IsOffendingItem` — the word and the item at fault;
* `OverlongItem` — the items that fail for a number with too many digits;
* `ShownText`, `ParseError.Blames` — the text that is shown with a fault, and the error of an item;
* `ofValue_outcome` — what becomes of a given expression.
-/

namespace Crontab

open Text

/-! ## Words and items at fault -/

/-- The words that the fields of a schedule are read from, one for each field. -/
def Schedule.IsReadFrom (schedule : Schedule) (tokens : List (List Char)) : Prop :=
  List.Forall₂ (fun field token => parseNamedField (.text field.name) (.text (String.ofList token)) =
    .ok (schedule.valuesOf field)) Field.all tokens

/-- Whether a word is read as a field. -/
def Field.Reads (field : Field) (token : List Char) : Prop :=
  ∃ values, parseNamedField (.text field.name) (.text (String.ofList token)) = .ok values

/-- The word that stands for a field is rejected, and the words in front of it are read as the fields
in front of that field. -/
structure IsRejectedFirst (tokens : List (List Char)) (field : Field) (token : List Char) : Prop where
  place : ∃ fields laterFields accepted laterTokens, Field.all = fields ++ field :: laterFields ∧
    tokens = accepted ++ token :: laterTokens ∧ List.Forall₂ Field.Reads fields accepted
  rejected : ¬ field.Reads token

/-- The item of a word is not in the grammar, and the items in front of it are. -/
structure IsOffendingItem (field : Field) (token piece : List Char) : Prop where
  place : ∃ front back, token.splitOn ',' = front ++ piece :: back ∧
    ∀ earlier ∈ front, ∃ item, ItemText field earlier item
  not_item : ∀ item, ¬ ItemText field piece item

section places

variable {tokens : List (List Char)} {field : Field} {token piece : List Char}

/-- A word that is rejected is one of the words of the expression. -/
theorem IsRejectedFirst.mem (h : IsRejectedFirst tokens field token) : token ∈ tokens := by
  obtain ⟨_, _, accepted, laterTokens, -, rfl, -⟩ := h.place
  simp

/-- An item at fault is part of its word. -/
theorem IsOffendingItem.isInfix (h : IsOffendingItem field token piece) : piece <:+: token := by
  obtain ⟨front, back, hSplit, -⟩ := h.place
  exact isInfix_of_mem_splitOn (by rw [hSplit]; simp)

end places

/-! ## Numbers with too many digits -/

/-- A numeral with more digits than are read. -/
structure TooLong (digits : List Char) : Prop where
  numeral : isNumeral digits = true
  lt_length : digitLimit < digits.length

/-- A span in which the first number that the field does not have is too long. -/
inductive OverlongSpan (field : Field) : List Char → Prop
  | single {digits : List Char} : TooLong digits → OverlongSpan field digits
  | first {first last : List Char} :
    TooLong first → isNumeral last = true → OverlongSpan field (first ++ '-' :: last)
  | last {first last : List Char} {n : Nat} :
    NumberText field first n → TooLong last → OverlongSpan field (first ++ '-' :: last)

/-- An item in which the first number that the field does not have is too long.  The step is looked at
before the span. -/
inductive OverlongItem (field : Field) : List Char → Prop
  | plain {text : List Char} : OverlongSpan field text → OverlongItem field text
  | step {text digits : List Char} :
    text ≠ [] → '/' ∉ text → TooLong digits → OverlongItem field (text ++ '/' :: digits)
  | span {text digits : List Char} {n : Nat} :
    OverlongSpan field text → NumberText field digits n → 0 < n →
      OverlongItem field (text ++ '/' :: digits)

/-! ## Errors -/

/-- The text that is shown with the fault of an item: the item, the whole word if the item is empty, or
the range in front of the step of the item. -/
inductive ShownText (token piece : List Char) : List Char → Prop
  | item : ShownText token piece piece
  | word : piece = [] → ShownText token piece token
  | range {front back : List Char} :
    '-' ∈ front → piece = front ++ '/' :: back → ShownText token piece front

/-- The error of a word with an item at fault.  It has neither a field nor a text if the fault is a
number with too many digits. -/
inductive ParseError.Blames (field : Field) (token piece : List Char) : ParseError → Prop
  | rejected {fault : FieldFault} {text : List Char} :
    parseNamedField (.text field.name) (.text (String.ofList token)) =
      .error (.parse (.rejected field fault (String.ofList text))) →
    ¬ OverlongItem field piece → ShownText token piece text →
      Blames field token piece (.rejected field fault (String.ofList text))
  | unreadable {limit : DigitLimit} :
    parseNamedField (.text field.name) (.text (String.ofList token)) =
      .error (.tooManyDigits limit) →
    OverlongItem field piece → Blames field token piece .unreadable

namespace TooLong

variable {field : Field} {digits : List Char}

/-- A number that is too long has digits only. -/
theorem not_mem (h : TooLong digits) {c : Char} (hc : c.isDigit = false) : c ∉ digits :=
  not_mem_of_isNumeral h.numeral hc

theorem ne_nil (h : TooLong digits) : digits ≠ [] :=
  ne_nil_of_isNumeral h.numeral

/-- A number has too many digits for the reader exactly if it is too long. -/
theorem readNumber_eq_tooManyDigits_iff {context : List Char} :
    (∃ limit, field.readNumber context digits = .error (.tooManyDigits limit)) ↔
      TooLong digits := by
  unfold Field.readNumber readNumeral
  constructor
  · rintro ⟨limit, h⟩
    split at h
    · next hNumeral =>
      split at h
      · next hLimit =>
        split at hLimit
        · next hLong => exact ⟨hNumeral, hLong⟩
        · cases hLimit
      · split at h <;> cases h
    · cases h
  · rintro ⟨hNumeral, hLong⟩
    rw [if_pos hNumeral, if_pos hLong]
    exact ⟨_, rfl⟩

end TooLong

section shown

variable {field : Field} {context text shown : List Char} {fault : FieldFault}

/-- A number is shown with its context. -/
theorem shown_of_readNumber (h : field.readNumber context text = .error (.rejected fault shown)) :
    shown = context := by
  unfold Field.readNumber at h
  split at h
  · split at h
    · cases h
    · split at h <;> cases h
      rfl
  · cases h
    rfl

/-- A range is shown itself. -/
theorem shown_of_readRange (h : field.readRange text = .error (.rejected fault shown)) :
    shown = text := by
  unfold Field.readRange at h
  split at h
  · simp only at h
    split at h
    · simp only [bind_eq_error] at h
      rcases h with h | ⟨_, -, h | ⟨_, -, h⟩⟩
      · exact shown_of_readNumber h
      · exact shown_of_readNumber h
      · split at h <;> cases h
        rfl
    · cases h
      rfl
  · cases h
    rfl

/-- The text shown with a rejected step is the one that the step was read in. -/
theorem shown_of_readStep (h : field.readStep context text = .error (.rejected fault shown)) :
    shown = context := by
  unfold Field.readStep at h
  rcases bind_eq_error.1 h with h | ⟨_, -, h⟩
  · exact shown_of_readNumber h
  · split at h <;> cases h
    rfl

/-- A span is shown with its context, but a range is shown itself. -/
theorem shown_of_readSpan (h : field.readSpan context text = .error (.rejected fault shown)) :
    shown = context ∨ '-' ∈ text ∧ shown = text := by
  unfold Field.readSpan at h
  split at h
  · cases h
  · split at h
    · next hHyphen => exact .inr ⟨List.contains_iff_mem.1 hHyphen, shown_of_readRange h⟩
    · exact .inl (shown_of_readNumber (map_eq_error.1 h))

end shown

/-! ## Items without blanks -/

namespace OverlongSpan

variable {field : Field} {text : List Char}

/-- A span with a number that is too long has digits and a hyphen only. -/
theorem not_mem (h : OverlongSpan field text) {c : Char} (hDigit : c.isDigit = false)
    (hHyphen : c ≠ '-') : c ∉ text := by
  cases h with
  | single hLong => exact hLong.not_mem hDigit
  | first hLong hLast => simp [hLong.not_mem hDigit, not_mem_of_isNumeral hLast hDigit, hHyphen]
  | last hFirst hLong => simp [hFirst.not_mem hDigit, hLong.not_mem hDigit, hHyphen]

theorem ne_nil (h : OverlongSpan field text) : text ≠ [] := by
  cases h with
  | single hLong => exact hLong.ne_nil
  | first => simp
  | last => simp

end OverlongSpan

section items

variable {field : Field} {context text : List Char}

/-- Two numerals around a hyphen are read one after the other. -/
theorem readRange_numerals {first last : List Char} (hFirst : isNumeral first = true)
    (hLast : isNumeral last = true) :
    field.readRange (first ++ '-' :: last) = (do
      let m ← field.readNumber (first ++ '-' :: last) first
      let n ← field.readNumber (first ++ '-' :: last) last
      if m ≤ n then .ok (.range m n)
      else .error (.rejected .rangeOrder (first ++ '-' :: last))) := by
  have hSplit : (first ++ '-' :: last).splitOn '-' = [first, last] :=
    splitOn_eq_pair_iff.2
      ⟨rfl, not_mem_of_isNumeral hFirst (by decide), not_mem_of_isNumeral hLast (by decide)⟩
  have hFirstStrip : stripEnd first = first := stripEnd_eq_self (tight_of_isNumeral hFirst).last
  have hLastStrip : stripStart last = last := stripStart_eq_self (tight_of_isNumeral hLast).head
  rw [Field.readRange, hSplit]
  simp only [hFirstStrip, hLastStrip, hFirst, hLast, Bool.and_self, if_true]

/-- A range without blanks that is not simply faulty is made of two numerals. -/
theorem exists_numerals_of_readRange {limit : DigitLimit} (hSolid : Solid text)
    (h : field.readRange text = .error (.tooManyDigits limit)) :
    ∃ first last, text = first ++ '-' :: last ∧ isNumeral first = true ∧
      isNumeral last = true := by
  unfold Field.readRange at h
  split at h
  · next first last hSplit =>
    obtain ⟨rfl, -, -⟩ := splitOn_eq_pair_iff.1 hSplit
    have hFirst : Solid first := hSolid.of_isInfix (List.prefix_append _ _).isInfix
    have hLast : Solid last :=
      hSolid.of_isInfix ((List.suffix_cons _ _).trans (List.suffix_append _ _)).isInfix
    simp only [stripEnd_eq_self hFirst.tight.last, stripStart_eq_self hLast.tight.head] at h
    split at h
    · next hNumerals => exact ⟨first, last, rfl, Bool.and_eq_true_iff.1 hNumerals⟩
    · cases h
  · cases h

/-- A range without blanks has a number with too many digits for the reader exactly if it is
overlong. -/
theorem readRange_eq_tooManyDigits_iff (hSolid : Solid text) (hHyphen : '-' ∈ text) :
    (∃ limit, field.readRange text = .error (.tooManyDigits limit)) ↔ OverlongSpan field text := by
  constructor
  · rintro ⟨limit, h⟩
    obtain ⟨first, last, rfl, hFirst, hLast⟩ := exists_numerals_of_readRange hSolid h
    rw [readRange_numerals hFirst hLast] at h
    simp only [bind_eq_error] at h
    rcases h with hLong | ⟨m, hNumber, hLong | ⟨n, -, hOrder⟩⟩
    · exact .first (TooLong.readNumber_eq_tooManyDigits_iff.1 ⟨limit, hLong⟩) hLast
    · exact .last (NumberText.readNumber_eq_ok_iff.1 hNumber)
        (TooLong.readNumber_eq_tooManyDigits_iff.1 ⟨limit, hLong⟩)
    · split at hOrder <;> cases hOrder
  · intro h
    cases h with
    | single hLong => exact absurd hHyphen (hLong.not_mem (by decide))
    | first hLong hLast =>
      obtain ⟨limit, hNumber⟩ := TooLong.readNumber_eq_tooManyDigits_iff.2 hLong
      rw [readRange_numerals hLong.numeral hLast, hNumber]
      exact ⟨limit, rfl⟩
    | last hFirst hLong =>
      obtain ⟨limit, hNumber⟩ := TooLong.readNumber_eq_tooManyDigits_iff.2 hLong
      rw [readRange_numerals hFirst.numeral hLong.numeral,
        NumberText.readNumber_eq_ok_iff.2 hFirst, ok_bind, hNumber]
      exact ⟨limit, rfl⟩

/-- A span without blanks has a number with too many digits for the reader exactly if it is
overlong. -/
theorem readSpan_eq_tooManyDigits_iff (hSolid : Solid text) :
    (∃ limit, field.readSpan context text = .error (.tooManyDigits limit)) ↔
      OverlongSpan field text := by
  unfold Field.readSpan
  by_cases hStar : text = ['*']
  · rw [if_pos hStar]
    refine ⟨nofun, fun h => ?_⟩
    exact absurd (by simp [hStar]) (h.not_mem (c := '*') (by decide) (by decide))
  rw [if_neg hStar]
  by_cases hHyphen : '-' ∈ text
  · rw [if_pos (List.contains_iff_mem.2 hHyphen)]
    exact readRange_eq_tooManyDigits_iff hSolid hHyphen
  rw [if_neg (by simpa using hHyphen)]
  simp only [map_eq_error]
  rw [TooLong.readNumber_eq_tooManyDigits_iff]
  refine ⟨.single, fun h => ?_⟩
  cases h with
  | single hLong => exact hLong
  | first => simp at hHyphen
  | last => simp at hHyphen

/-- A step has too many digits exactly when it is too long. -/
theorem readStep_eq_tooManyDigits_iff :
    (∃ limit, field.readStep context text = .error (.tooManyDigits limit)) ↔ TooLong text := by
  have hNumber : (∃ limit, field.readNumber context text = .error (.tooManyDigits limit)) ↔
      TooLong text := TooLong.readNumber_eq_tooManyDigits_iff
  rw [← hNumber]
  unfold Field.readStep
  refine exists_congr fun limit => ⟨fun h => ?_, fun h => bind_eq_error.2 (.inl h)⟩
  rcases bind_eq_error.1 h with h | ⟨_, -, h⟩
  · exact h
  · split at h <;> cases h

/-- The two parts of an item without blanks around a slash. -/
theorem exists_parts_of_readItem {e : FieldError} (hSolid : Solid text) (hSlash : '/' ∈ text)
    (h : field.readItem context text = .error e) :
    e = .rejected .stepFormat text ∨
      ∃ span digits, text = span ++ '/' :: digits ∧ '/' ∉ span ∧ span ≠ [] ∧ Solid span ∧
        (field.readStep text digits = .error e ∨
          (∃ step, field.readStep text digits = .ok step) ∧ field.readSpan text span = .error e) := by
  unfold Field.readItem at h
  rw [if_pos (List.contains_iff_mem.2 hSlash)] at h
  split at h
  · next span digits hParts =>
    obtain ⟨front, rest, hSplit, hFront, hRest⟩ := List.map_eq_cons_iff.1 hParts
    obtain ⟨back, rfl, hBack⟩ := List.map_eq_singleton_iff.1 hRest
    obtain ⟨hText, hFirst, -⟩ := splitOn_eq_pair_iff.1 hSplit
    have hSpan : Solid front :=
      hSolid.of_isInfix (isInfix_of_mem_splitOn (hSplit ▸ List.mem_cons_self))
    have hDigits : Solid back :=
      hSolid.of_isInfix (isInfix_of_mem_splitOn (hSplit ▸ List.mem_cons_of_mem _ List.mem_cons_self))
    rw [hSpan.strip_eq] at hFront
    rw [hDigits.strip_eq] at hBack
    subst hFront hBack
    split at h
    · exact .inl (Except.error.inj h).symm
    · next hEmpty =>
      simp only [Bool.or_eq_true, List.isEmpty_iff, not_or] at hEmpty
      refine .inr ⟨front, back, hText, hFirst, hEmpty.1, hSpan, ?_⟩
      simp only [bind_eq_error] at h
      rcases h with hStep | ⟨step, hStep, hSpan | ⟨_, -, h⟩⟩
      · exact .inl hStep
      · exact .inr ⟨⟨step, hStep⟩, hSpan⟩
      · cases h
  · exact .inl (Except.error.inj h).symm

/-- A span and a step without blanks around a slash are read one after the other, the step first. -/
theorem readItem_stepped {span digits : List Char} (hSpan : Solid span) (hSlash : '/' ∉ span)
    (hNe : span ≠ []) (hDigits : isNumeral digits = true) :
    field.readItem context (span ++ '/' :: digits) = (do
      let step ← field.readStep (span ++ '/' :: digits) digits
      let span ← field.readSpan (span ++ '/' :: digits) span
      .ok ⟨span, some step⟩) := by
  have hSplit : (span ++ '/' :: digits).splitOn '/' = [span, digits] :=
    splitOn_eq_pair_iff.2 ⟨rfl, hSlash, not_mem_of_isNumeral hDigits (by decide)⟩
  have hEmpty : (span.isEmpty || digits.isEmpty) = false := by
    simp [hNe, ne_nil_of_isNumeral hDigits]
  rw [Field.readItem, if_pos (by simp), hSplit, List.map_cons, List.map_cons, List.map_nil,
    hSpan.strip_eq, strip_of_tight (tight_of_isNumeral hDigits)]
  simp only [hEmpty, Bool.false_eq_true, if_false]

/-- An item without blanks has a number with too many digits for the reader exactly if it is
overlong. -/
theorem readItem_eq_tooManyDigits_iff (hSolid : Solid text) :
    (∃ limit, field.readItem context text = .error (.tooManyDigits limit)) ↔
      OverlongItem field text := by
  by_cases hSlash : '/' ∈ text
  · constructor
    · rintro ⟨limit, h⟩
      -- the step is read before the span, so that it decides whether the span is looked at
      rcases exists_parts_of_readItem hSolid hSlash h with
        hFormat | ⟨span, digits, rfl, hNoSlash, hNe, hSpan, hStep | ⟨⟨step, hStep⟩, hLong⟩⟩
      · cases hFormat
      · exact .step hNe hNoSlash (readStep_eq_tooManyDigits_iff.1 ⟨limit, hStep⟩)
      · obtain ⟨hNumber, hPos⟩ := readStep_eq_ok_iff.1 hStep
        exact .span ((readSpan_eq_tooManyDigits_iff hSpan).1 ⟨limit, hLong⟩) hNumber hPos
    · intro h
      cases h with
      | plain hSpan => exact absurd hSlash (hSpan.not_mem (by decide) (by decide))
      | step hNe hNoSlash hLong =>
        have hSpan : Solid _ := hSolid.of_isInfix (List.prefix_append _ _).isInfix
        obtain ⟨limit, hStep⟩ := readStep_eq_tooManyDigits_iff.2 hLong
        rw [readItem_stepped hSpan hNoSlash hNe hLong.numeral, hStep]
        exact ⟨limit, rfl⟩
      | span hOverlong hNumber hPos =>
        have hSpan : Solid _ := hSolid.of_isInfix (List.prefix_append _ _).isInfix
        obtain ⟨limit, hLong⟩ := (readSpan_eq_tooManyDigits_iff hSpan).2 hOverlong
        rw [readItem_stepped hSpan (hOverlong.not_mem (by decide) (by decide)) hOverlong.ne_nil
          hNumber.numeral, readStep_eq_ok_iff.2 ⟨hNumber, hPos⟩, ok_bind, hLong]
        exact ⟨limit, rfl⟩
  · unfold Field.readItem
    rw [if_neg (by simpa using hSlash)]
    constructor
    · rintro ⟨limit, h⟩
      rcases bind_eq_error.1 h with h | ⟨_, -, h⟩
      · exact .plain ((readSpan_eq_tooManyDigits_iff hSolid).1 ⟨limit, h⟩)
      · cases h
    · intro h
      cases h with
      | plain hSpan =>
        obtain ⟨limit, hLong⟩ := (readSpan_eq_tooManyDigits_iff hSolid).2 hSpan
        exact ⟨limit, bind_eq_error.2 (.inl hLong)⟩
      | step => simp at hSlash
      | span => simp at hSlash

/-- A faulty item without blanks is shown itself, but a faulty range in front of a step is shown
without the step. -/
theorem shownText_of_readItem {token shown : List Char} {fault : FieldFault} (hSolid : Solid text)
    (h : field.readItem text text = .error (.rejected fault shown)) :
    ShownText token text shown := by
  by_cases hSlash : '/' ∈ text
  · rcases exists_parts_of_readItem hSolid hSlash h with
      hFormat | ⟨span, digits, hText, -, -, -, hStep | ⟨-, hSpan⟩⟩
    · cases hFormat
      exact .item
    · rw [shown_of_readStep hStep]
      exact .item
    · rcases shown_of_readSpan hSpan with rfl | ⟨hHyphen, rfl⟩
      · exact .item
      · exact .range hHyphen hText
  · unfold Field.readItem at h
    rw [if_neg (by simpa using hSlash)] at h
    rcases bind_eq_error.1 h with h | ⟨_, -, h⟩
    · rcases shown_of_readSpan h with rfl | ⟨-, rfl⟩ <;> exact .item
    · cases h

end items

/-! ## Words -/

section tokens

variable {field : Field} {token : List Char}

/-- Items are read from the left up to the first one that is not in the grammar. -/
theorem exists_offending_of_readItems {context : List Char} {pieces : List (List Char)}
    {e : FieldError} (hSolid : ∀ piece ∈ pieces, Solid piece)
    (h : field.readItems context pieces = .error e) :
    ∃ front piece back, pieces = front ++ piece :: back ∧
      (∀ earlier ∈ front, ∃ item, ItemText field earlier item) ∧
      (piece = [] ∧ e = .rejected .emptyItem context ∨ field.readItem piece piece = .error e) := by
  induction pieces with
  | nil => cases h
  | cons piece pieces ih =>
    have hPiece : strip piece = piece := (hSolid piece List.mem_cons_self).strip_eq
    rw [Field.readItems, hPiece] at h
    split at h
    · next hEmpty =>
      exact ⟨[], piece, pieces, rfl, by simp, .inl ⟨List.isEmpty_iff.1 hEmpty,
        (Except.error.inj h).symm⟩⟩
    · simp only [bind_eq_error] at h
      rcases h with hItem | ⟨item, hItem, hRest | ⟨_, -, h⟩⟩
      · exact ⟨[], piece, pieces, rfl, by simp, .inr hItem⟩
      · obtain ⟨front, offending, back, rfl, hFront, hOffending⟩ :=
          ih (fun other hOther => hSolid other (List.mem_cons_of_mem _ hOther)) hRest
        have hFirst : ItemText field piece item :=
          (readItem_eq_ok_iff (hSolid piece List.mem_cons_self).tight).1 hItem
        refine ⟨piece :: front, offending, back, rfl, ?_, hOffending⟩
        intro earlier hEarlier
        rcases List.mem_cons.1 hEarlier with rfl | hEarlier
        · exact ⟨item, hFirst⟩
        · exact hFront earlier hEarlier
      · cases h

/-- A word that cannot be read as a field has an item at fault. -/
theorem exists_offending_of_read {e : FieldError} (hSolid : Solid token)
    (h : field.read token = .error e) :
    ∃ piece, IsOffendingItem field token piece ∧
      (piece = [] ∧ e = .rejected .emptyItem token ∨ field.readItem piece piece = .error e) := by
  unfold Field.read at h
  simp only [hSolid.strip_eq] at h
  have hPieces : ∀ piece ∈ token.splitOn ',', Solid piece :=
    fun piece hPiece => hSolid.of_isInfix (isInfix_of_mem_splitOn hPiece)
  have hSplit : ∃ front piece back, token.splitOn ',' = front ++ piece :: back ∧
      (∀ earlier ∈ front, ∃ item, ItemText field earlier item) ∧
      (piece = [] ∧ e = .rejected .emptyItem token ∨ field.readItem piece piece = .error e) := by
    split at h
    · exact exists_offending_of_readItems hPieces h
    · next hComma =>
      have hNone : token.splitOn ',' = [token] := List.splitOn_eq_singleton (by simpa using hComma)
      exact ⟨[], token, [], hNone, by simp, .inr (map_eq_error.1 h)⟩
  obtain ⟨front, piece, back, hParts, hFront, hError⟩ := hSplit
  refine ⟨piece, ⟨⟨front, back, hParts, hFront⟩, fun item hItem => ?_⟩, hError⟩
  rcases hError with ⟨rfl, -⟩ | hError
  · exact hItem.ne_nil rfl
  · have hPiece : Solid piece := hPieces piece (by simp [hParts])
    rw [(readItem_eq_ok_iff hPiece.tight).2 hItem] at hError
    cases hError

/-- A word is read by the reader of words as it is by the reader of named fields. -/
theorem parseWord_eq_ok_iff {values : List Nat} :
    field.parseWord token = .ok values ↔
      parseNamedField (.text field.name) (.text (String.ofList token)) = .ok values := by
  rw [parseNamedField_name, Field.parseText, String.toList_ofList, Field.parseWord]
  cases field.parse token with
  | ok own => simp
  | error e => cases e <;> simp

/-- A word is read as a field exactly when its parts are. -/
theorem reads_iff : field.Reads token ↔ ∃ values, field.parseWord token = .ok values :=
  exists_congr fun _ => parseWord_eq_ok_iff.symm

/-- What is shown is a part of the word. -/
theorem ParseError.Blames.isInfix {piece : List Char} {e : ParseError} {shown : String}
    (hPiece : IsOffendingItem field token piece) (h : e.Blames field token piece)
    (hShown : e.text? = some shown) : shown.toList <:+: token := by
  cases h with
  | unreadable => cases hShown
  | rejected _ _ hText =>
    obtain rfl := Option.some.inj hShown
    rw [String.toList_ofList]
    cases hText with
    | item => exact hPiece.isInfix
    | word _ => exact List.infix_rfl
    | range _ hEq =>
      refine List.IsInfix.trans ?_ hPiece.isInfix
      rw [hEq]
      exact (List.prefix_append _ _).isInfix

/-- The error of a word is that of an item at fault. -/
theorem exists_blamed {e : ParseError} (hSolid : Solid token)
    (h : field.parseWord token = .error e) :
    ∃ piece, IsOffendingItem field token piece ∧ e.Blames field token piece := by
  have hNamed := parseNamedField_name field (String.ofList token)
  rw [Field.parseText, String.toList_ofList] at hNamed
  unfold Field.parseWord at h
  split at h
  · cases h
  · next fault shown hParse =>
    cases h
    rw [hParse] at hNamed
    obtain ⟨piece, hOffending, hError⟩ := exists_offending_of_read hSolid (map_eq_error.1 hParse)
    have hPiece := hSolid.of_isInfix hOffending.isInfix
    refine ⟨piece, hOffending, .rejected hNamed ?_ ?_⟩
    -- an overlong item is reported as one with too many digits, and not as rejected
    · intro hOverlong
      obtain ⟨limit, hLong⟩ : ∃ limit, field.readItem piece piece = .error (.tooManyDigits limit) :=
        (readItem_eq_tooManyDigits_iff hPiece).2 hOverlong
      rcases hError with ⟨rfl, -⟩ | hError
      · cases hLong
      · rw [hLong] at hError
        cases hError
    · rcases hError with ⟨hEmpty, hShown⟩ | hError
      · cases hShown
        exact .word hEmpty
      · exact shownText_of_readItem hPiece hError
  · next limit hParse =>
    cases h
    rw [hParse] at hNamed
    obtain ⟨piece, hOffending, hError⟩ := exists_offending_of_read hSolid (map_eq_error.1 hParse)
    rcases hError with ⟨-, hShown⟩ | hError
    · cases hShown
    · exact ⟨piece, hOffending, .unreadable hNamed
        ((readItem_eq_tooManyDigits_iff (hSolid.of_isInfix hOffending.isInfix)).1 ⟨limit, hError⟩)⟩

end tokens

/-! ## Expressions -/

/-- Five words, one by one. -/
theorem exists_five {tokens : List (List Char)} (h : tokens.length = 5) :
    ∃ a b c d e, tokens = [a, b, c, d, e] := by
  match tokens, h with
  | [a, b, c, d, e], _ => exact ⟨a, b, c, d, e, rfl⟩

namespace Schedule

/-- Words are read as a schedule exactly if each of five is read as its field. -/
theorem parseChars_eq_ok_iff {text : List Char} {schedule : Schedule} :
    parseChars text = .ok schedule ↔ schedule.IsReadFrom (words text) := by
  unfold parseChars IsReadFrom Field.all
  simp only [← parseWord_eq_ok_iff]
  split
  · next a b c d e hWords =>
    simp only [hWords, List.forall₂_cons, List.Forall₂.nil, and_true, bind_eq_ok]
    constructor
    · rintro ⟨minute, hMinute, hour, hHour, dayOfMonth, hDay, month, hMonth, dayOfWeek, hWeek, h⟩
      cases h
      exact ⟨hMinute, hHour, hDay, hMonth, hWeek⟩
    · rintro ⟨hMinute, hHour, hDay, hMonth, hWeek⟩
      exact ⟨_, hMinute, _, hHour, _, hDay, _, hMonth, _, hWeek, rfl⟩
  · next hOther =>
    refine ⟨nofun, fun h => ?_⟩
    obtain ⟨a, b, c, d, e, hWords⟩ := exists_five h.length_eq.symm
    exact (hOther a b c d e hWords).elim

/-- An expression that does not have five words fails with their number. -/
theorem parseChars_of_length_ne {text : List Char} (h : (words text).length ≠ 5) :
    parseChars text = .error (.wordCount (words text).length) := by
  unfold parseChars
  split
  · next hWords => simp [hWords] at h
  · rfl

end Schedule

/-- A word that fails after others were read as the fields before is rejected first. -/
theorem isRejectedFirst_of_parts {tokens accepted laterTokens : List (List Char)}
    {fields laterFields : List Field} {field : Field} {token : List Char} {e : ParseError}
    (hAccepted : List.Forall₂ Field.Reads fields accepted) (h : field.parseWord token = .error e)
    (hFields : Field.all = fields ++ field :: laterFields)
    (hTokens : tokens = accepted ++ token :: laterTokens) : IsRejectedFirst tokens field token where
  place := ⟨fields, laterFields, accepted, laterTokens, hFields, hTokens, hAccepted⟩
  rejected := by
    intro hReads
    obtain ⟨values, hValues⟩ := reads_iff.1 hReads
    rw [hValues] at h
    cases h

/-- With five words and an error there is a first word that is rejected, and it has that error. -/
theorem exists_rejected_of_parseChars {text : List Char} {e : ParseError}
    (hLength : (words text).length = 5) (h : Schedule.parseChars text = .error e) :
    ∃ field token, IsRejectedFirst (words text) field token ∧ field.parseWord token = .error e := by
  have hReads {field : Field} {token : List Char} {values : List Nat}
      (h : field.parseWord token = .ok values) : field.Reads token := reads_iff.2 ⟨values, h⟩
  unfold Schedule.parseChars at h
  split at h
  · next minute hour day month week hWords =>
    rw [hWords]
    simp only [bind_eq_error] at h
    rcases h with h | ⟨_, hMinute, h | ⟨_, hHour, h | ⟨_, hDay, h | ⟨_, hMonth, h | ⟨_, -, h⟩⟩⟩⟩⟩
    · exact ⟨_, minute, isRejectedFirst_of_parts .nil h rfl rfl, h⟩
    · exact ⟨_, hour, isRejectedFirst_of_parts (.cons (hReads hMinute) .nil) h rfl rfl, h⟩
    · exact ⟨_, day, isRejectedFirst_of_parts
        (.cons (hReads hMinute) (.cons (hReads hHour) .nil)) h rfl rfl, h⟩
    · exact ⟨_, month, isRejectedFirst_of_parts
        (.cons (hReads hMinute) (.cons (hReads hHour) (.cons (hReads hDay) .nil))) h rfl rfl, h⟩
    · exact ⟨_, week, isRejectedFirst_of_parts (.cons (hReads hMinute) (.cons (hReads hHour)
        (.cons (hReads hDay) (.cons (hReads hMonth) .nil)))) h rfl rfl, h⟩
    · cases h
  · next hOther =>
    obtain ⟨a, b, c, d, e, hWords⟩ := exists_five hLength
    exact (hOther a b c d e hWords).elim

/-- **The first fault.** What is no text is no expression.  A text is a schedule exactly if it has
five words each of which is read as its field, and the values of the fields are then those that were
read.  Otherwise the error is that of the first fault: it says so if there are not five words, and
with five words it is the error of the leftmost word that is rejected, with the leftmost item at
fault: it names the field of the word and shows a part of the word, unless the fault is a number with
too many digits. -/
theorem ofValue_outcome (given : Value) :
    (given.text? = none → Schedule.ofValue given = .error .notText) ∧
    ∀ text, given.text? = some text →
      (∀ schedule, Schedule.ofValue given = .ok schedule ↔
        schedule.IsReadFrom (words text.toList)) ∧
      ((words text.toList).length ≠ 5 →
        Schedule.ofValue given = .error (.wordCount (words text.toList).length)) ∧
      ∀ error, (words text.toList).length = 5 → Schedule.ofValue given = .error error →
        ∃ field token piece, IsRejectedFirst (words text.toList) field token ∧
          IsOffendingItem field token piece ∧ error.Blames field token piece ∧
          ∀ shown, error.text? = some shown → shown.toList <:+: token := by
  unfold Schedule.ofValue
  refine ⟨fun h => by rw [h], fun text hText => ?_⟩
  simp only [hText, Schedule.parse]
  refine ⟨fun schedule => Schedule.parseChars_eq_ok_iff, Schedule.parseChars_of_length_ne, ?_⟩
  intro error hLength hError
  obtain ⟨field, token, hFirst, hToken⟩ := exists_rejected_of_parseChars hLength hError
  have hSolid : Solid token := solid_of_mem_words hFirst.mem
  obtain ⟨piece, hOffending, hBlames⟩ := exists_blamed hSolid hToken
  exact ⟨field, token, piece, hFirst, hOffending, hBlames, fun _ => hBlames.isInfix hOffending⟩

/-- A range in front of a step is shown without the step, so that what is shown is neither the word nor
an item of it. -/
theorem ofValue_range_before_step :
    ∃ error, Schedule.ofValue (.text "5-2/3 * * * *") = .error error ∧
      error.field? = some Field.minute.name ∧ error.text? = some "5-2" ∧
      "5-2" ≠ "5-2/3" ∧ "5-2".toList ∉ "5-2/3".toList.splitOn ',' := by
  refine ⟨.rejected .minute .rangeOrder "5-2", ?_, ?_, ?_, ?_, ?_⟩ <;> decide +kernel

end Crontab
