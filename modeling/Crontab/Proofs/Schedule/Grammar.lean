import Crontab.Schedule.NamedField
import Crontab.Proofs.Data.Outcomes
import Crontab.Proofs.Text.Stripping
import Mathlib.Data.List.Forall2
import Mathlib.Tactic.SplitIfs

/-!
# The grammar of schedule fields

What the text of a field has to look like and which values it stands for, said without the reader,
and the reader measured against both.

* `NumberText`, `SpanText`, `ItemText` — the grammar of numbers, spans and items;
* `Item.Denotes` — the values of an item, as arithmetic;
* `readItem_eq_ok_iff` — an item is read exactly if the grammar has it;
* `mem_values_iff` — the listed values of an item are those that it denotes;
* `parseNamedField_grammar` — a field is read exactly if all of its items are in the grammar, and
  the values read are those of its items, in ascending order.
-/

namespace Crontab

open Text

/-! ## The grammar -/

/-- A written number of a field: ASCII digits, leading zeros allowed, not too many of them, and a
value inside the bounds of the field. -/
structure NumberText (field : Field) (digits : List Char) (n : Nat) : Prop where
  numeral : isNumeral digits = true
  length_le : digits.length ≤ digitLimit
  value : numeralValue digits = n
  least_le : field.least ≤ n
  le_greatest : n ≤ field.greatest

/-- A written span: a star, a number, or two numbers in order around a hyphen, with blanks allowed
on both sides of it. -/
inductive SpanText (field : Field) : List Char → Span → Prop
  | every : SpanText field ['*'] .every
  | single {digits : List Char} {n : Nat} :
    NumberText field digits n → SpanText field digits (.single n)
  | range {first front back last : List Char} {m n : Nat} :
    NumberText field first m → Blanks front → Blanks back → NumberText field last n → m ≤ n →
      SpanText field (first ++ front ++ '-' :: (back ++ last)) (.range m n)

/-- A written item: a span, or a span and a positive number around a slash, with blanks allowed on
both sides of it. -/
inductive ItemText (field : Field) : List Char → Item → Prop
  | plain {text : List Char} {span : Span} :
    SpanText field text span → ItemText field text ⟨span, none⟩
  | stepped {text front back digits : List Char} {span : Span} {step : Nat} :
    SpanText field text span → Blanks front → Blanks back → NumberText field digits step →
      0 < step → ItemText field (text ++ front ++ '/' :: (back ++ digits)) ⟨span, some step⟩

/-- The numbers `first`, `first + step`, … that do not exceed `last`. -/
def Steps (first last step n : Nat) : Prop :=
  ∃ i, n = first + i * step ∧ n ≤ last

/-- The values of an item.  A star with a step starts at February in the month field. -/
def Item.Denotes (field : Field) (n : Nat) : Item → Prop
  | ⟨.every, none⟩ => field.least ≤ n ∧ n ≤ field.greatest
  | ⟨.single m, none⟩ => n = m
  | ⟨.range first last, none⟩ => first ≤ n ∧ n ≤ last
  | ⟨.every, some step⟩ => Steps (if field = .month then 2 else field.least) field.greatest step n
  | ⟨.single m, some step⟩ => Steps m field.greatest step n
  | ⟨.range first last, some step⟩ => Steps first last step n

/-! ## Texts of the grammar -/

namespace NumberText

variable {field : Field} {digits : List Char} {n : Nat}

/-- A written number has no blanks at its ends. -/
theorem tight (h : NumberText field digits n) : Tight digits :=
  tight_of_isNumeral h.numeral

theorem ne_nil (h : NumberText field digits n) : digits ≠ [] :=
  ne_nil_of_isNumeral h.numeral

/-- A written number has digits only. -/
theorem not_mem (h : NumberText field digits n) {c : Char} (hc : c.isDigit = false) :
    c ∉ digits :=
  not_mem_of_isNumeral h.numeral hc

/-- A number is read exactly if the grammar has it. -/
theorem readNumber_eq_ok_iff {context : List Char} :
    field.readNumber context digits = .ok n ↔ NumberText field digits n := by
  have hAdmits : ∀ m : Nat, field.admits m = true ↔ field.least ≤ m ∧ m ≤ field.greatest := by
    intro m
    simp [Field.admits]
  constructor
  · intro h
    unfold Field.readNumber readNumeral at h
    by_cases hNumeral : isNumeral digits = true
    · by_cases hLong : digitLimit < digits.length
      · simp [hNumeral, hLong] at h
      · simp only [hNumeral, hLong, if_true, if_false] at h
        split_ifs at h with hIn
        cases h
        obtain ⟨hLeast, hGreatest⟩ := (hAdmits _).1 hIn
        exact ⟨hNumeral, Nat.le_of_not_lt hLong, rfl, hLeast, hGreatest⟩
    · simp [hNumeral] at h
  · rintro ⟨hNumeral, hLength, rfl, hLeast, hGreatest⟩
    unfold Field.readNumber readNumeral
    rw [if_pos hNumeral, if_neg (Nat.not_lt.2 hLength)]
    simp only
    rw [if_pos ((hAdmits _).2 ⟨hLeast, hGreatest⟩)]

end NumberText

namespace SpanText

variable {field : Field} {text : List Char} {span : Span}

/-- A written span has no blank at its ends. -/
theorem tight (h : SpanText field text span) : Tight text := by
  cases h with
  | every =>
    constructor
    all_goals
      intro c hc
      simp at hc
      subst hc
      decide
  | single hNumber => exact hNumber.tight
  | @range first front back last _ _ hFirst _ _ hLast _ =>
    constructor
    · intro c hc
      apply hFirst.tight.head c
      obtain ⟨d, rest, rfl⟩ := List.exists_cons_of_ne_nil hFirst.ne_nil
      simpa using hc
    · intro c hc
      apply hLast.tight.last c
      obtain ⟨init, d, rfl⟩ := (List.eq_nil_or_concat last).resolve_left hLast.ne_nil
      have hEq : first ++ front ++ '-' :: (back ++ init.concat d) =
          (first ++ front ++ '-' :: (back ++ init)) ++ [d] := by simp
      rw [hEq, List.getLast?_concat] at hc
      simpa using hc

theorem ne_nil (h : SpanText field text span) : text ≠ [] := by
  cases h with
  | every => simp
  | single hNumber => exact hNumber.ne_nil
  | range => simp

/-- A written span holds no slash. -/
theorem slash_not_mem (h : SpanText field text span) : '/' ∉ text := by
  cases h with
  | every => decide
  | single hNumber => exact hNumber.not_mem (by decide)
  | range hFirst hFront hBack hLast _ =>
    have h₁ := hFirst.not_mem (c := '/') (by decide)
    have h₂ := hFront.not_mem (c := '/') (by decide)
    have h₃ := hBack.not_mem (c := '/') (by decide)
    have h₄ := hLast.not_mem (c := '/') (by decide)
    simp [h₁, h₂, h₃, h₄]

end SpanText

/-! ## The reader accepts the grammar -/

section reading

variable {field : Field}

/-- A range that is read is in the grammar. -/
theorem spanText_of_readRange {text : List Char} {span : Span}
    (h : field.readRange text = .ok span) : SpanText field text span := by
  unfold Field.readRange at h
  split at h
  next first last hSplit =>
    obtain ⟨rfl, -, -⟩ := splitOn_eq_pair_iff.1 hSplit
    simp only at h
    split_ifs at h with hNumerals
    simp only [bind_eq_ok] at h
    obtain ⟨a, hFirst, b, hLast, h⟩ := h
    split_ifs at h with hLe
    cases h
    obtain ⟨front, hFront, hFirstEq⟩ := exists_stripEnd_eq first
    obtain ⟨back, hBack, hLastEq⟩ := exists_stripStart_eq last
    rw [hFirstEq, hLastEq]
    exact .range (NumberText.readNumber_eq_ok_iff.1 hFirst) hFront hBack
      (NumberText.readNumber_eq_ok_iff.1 hLast) hLe
  next => cases h

/-- A range of the grammar is read. -/
theorem readRange_eq_ok {text : List Char} {m n : Nat} (h : SpanText field text (.range m n)) :
    field.readRange text = .ok (.range m n) := by
  cases h with
  | @range first front back last _ _ hFirst hFront hBack hLast hLe =>
    have hSplit : (first ++ front ++ '-' :: (back ++ last)).splitOn '-' =
        [first ++ front, back ++ last] := by
      refine splitOn_eq_pair_iff.2 ⟨rfl, ?_, ?_⟩
      · simp [hFirst.not_mem (c := '-') (by decide), hFront.not_mem (c := '-') (by decide)]
      · simp [hLast.not_mem (c := '-') (by decide), hBack.not_mem (c := '-') (by decide)]
    have hFirstStrip : stripEnd (first ++ front) = first := by
      rw [stripEnd_append_of_blanks hFront]
      exact stripEnd_eq_self hFirst.tight.last
    have hLastStrip : stripStart (back ++ last) = last := by
      rw [stripStart_append_of_blanks hBack]
      exact stripStart_eq_self hLast.tight.head
    unfold Field.readRange
    rw [hSplit]
    simp only [hFirstStrip, hLastStrip, hFirst.numeral, hLast.numeral, Bool.and_self, if_true]
    rw [NumberText.readNumber_eq_ok_iff.2 hFirst, ok_bind,
      NumberText.readNumber_eq_ok_iff.2 hLast, ok_bind, if_pos hLe]

/-- A span is read exactly if the grammar has it. -/
theorem readSpan_eq_ok_iff {context text : List Char} {span : Span} :
    field.readSpan context text = .ok span ↔ SpanText field text span := by
  constructor
  · intro h
    unfold Field.readSpan at h
    split_ifs at h with hStar hHyphen
    · cases h
      subst hStar
      exact .every
    · exact spanText_of_readRange h
    · obtain ⟨n, hNumber, rfl⟩ := map_eq_ok.1 h
      exact .single (NumberText.readNumber_eq_ok_iff.1 hNumber)
  · intro h
    unfold Field.readSpan
    cases h with
    | every => simp
    | @single _ n hNumber =>
      have hStar : text ≠ ['*'] := by
        rintro rfl
        exact hNumber.not_mem (c := '*') (by decide) (by simp)
      have hHyphen : text.contains '-' = false := by
        simpa using hNumber.not_mem (c := '-') (by decide)
      rw [if_neg hStar, hHyphen, NumberText.readNumber_eq_ok_iff.2 hNumber]
      rfl
    | @range first front back last m n hFirst hFront hBack hLast hLe =>
      have hText : SpanText field (first ++ front ++ '-' :: (back ++ last)) (.range m n) :=
        .range hFirst hFront hBack hLast hLe
      have hMem : '-' ∈ first ++ front ++ '-' :: (back ++ last) := by simp
      have hStar : first ++ front ++ '-' :: (back ++ last) ≠ ['*'] := by
        intro hEq
        rw [hEq] at hMem
        simp at hMem
      rw [if_neg hStar, if_pos (List.contains_iff_mem.2 hMem)]
      exact readRange_eq_ok hText

/-- A step is read exactly if it is a positive number of the field. -/
theorem readStep_eq_ok_iff {context digits : List Char} {step : Nat} :
    field.readStep context digits = .ok step ↔ NumberText field digits step ∧ 0 < step := by
  unfold Field.readStep
  constructor
  · intro h
    obtain ⟨n, hNumber, h⟩ := bind_eq_ok.1 h
    split_ifs at h with hIn
    cases h
    exact ⟨NumberText.readNumber_eq_ok_iff.1 hNumber, hIn.1⟩
  · rintro ⟨hStep, hPos⟩
    rw [NumberText.readNumber_eq_ok_iff.2 hStep, ok_bind, if_pos ⟨hPos, hStep.le_greatest⟩]

/-- The two parts of a text around a slash, stripped, as the grammar has them: the blanks at the
outer ends are none, since the text has none. -/
theorem exists_parts_of_tight {text front back : List Char} (hText : Tight text)
    (hEq : text = front ++ '/' :: back) :
    ∃ inner outer, Blanks inner ∧ Blanks outer ∧
      text = strip front ++ inner ++ '/' :: (outer ++ strip back) := by
  obtain ⟨before, inner, hBefore, hInner, hFront⟩ := exists_strip_eq front
  obtain ⟨outer, after, hOuter, hAfter, hBack⟩ := exists_strip_eq back
  have hParts : text = before ++ (strip front ++ inner ++ '/' :: (outer ++ strip back)) ++ after :=
    calc
      text = front ++ '/' :: back := hEq
      _ = (before ++ strip front ++ inner) ++ '/' :: (outer ++ strip back ++ after) := by
        rw [← hFront, ← hBack]
      _ = before ++ (strip front ++ inner ++ '/' :: (outer ++ strip back)) ++ after := by simp
  have hBeforeNil : before = [] := by
    rw [List.append_assoc] at hParts
    exact Tight.eq_nil_of_append (hParts ▸ hText) hBefore
  have hAfterNil : after = [] := Tight.eq_nil_of_append' (hParts ▸ hText) hAfter
  refine ⟨inner, outer, hInner, hOuter, ?_⟩
  rw [hParts, hBeforeNil, hAfterNil]
  simp

/-- Two parts of a text around a slash, stripped, as the reader sees them. -/
theorem map_strip_splitOn_eq {text front back digits : List Char} {span : Span} {step : Nat}
    (hSpan : SpanText field text span) (hFront : Blanks front) (hBack : Blanks back)
    (hStep : NumberText field digits step) :
    ((text ++ front ++ '/' :: (back ++ digits)).splitOn '/').map strip = [text, digits] := by
  have hSplit : (text ++ front ++ '/' :: (back ++ digits)).splitOn '/' =
      [text ++ front, back ++ digits] := by
    refine splitOn_eq_pair_iff.2 ⟨rfl, ?_, ?_⟩
    · simp [hSpan.slash_not_mem, hFront.not_mem (c := '/') (by decide)]
    · simp [hBack.not_mem (c := '/') (by decide), hStep.not_mem (c := '/') (by decide)]
  have hText : strip (text ++ front) = text := by
    simpa using strip_append blanks_nil hSpan.tight hFront
  have hDigits : strip (back ++ digits) = digits := by
    simpa using strip_append hBack hStep.tight blanks_nil
  rw [hSplit, List.map_cons, List.map_cons, List.map_nil, hText, hDigits]

/-- An item without blanks at its ends is read exactly if the grammar has it. -/
theorem readItem_eq_ok_iff {context text : List Char} {item : Item} (hTight : Tight text) :
    field.readItem context text = .ok item ↔ ItemText field text item := by
  constructor
  · intro h
    unfold Field.readItem at h
    split_ifs at h with hSlash
    · split at h
      next span digits hParts =>
        split_ifs at h
        -- the text is what it was split from, with the blanks around the slash
        obtain ⟨front, rest, hSplit, rfl, hRest⟩ := List.map_eq_cons_iff.1 hParts
        obtain ⟨back, rfl, rfl⟩ := List.map_eq_singleton_iff.1 hRest
        obtain ⟨hEq, -, -⟩ := splitOn_eq_pair_iff.1 hSplit
        obtain ⟨inner, outer, hInner, hOuter, hText⟩ := exists_parts_of_tight hTight hEq
        simp only [bind_eq_ok] at h
        obtain ⟨step, hStep, span, hSpan, h⟩ := h
        obtain rfl := Except.ok.inj h
        obtain ⟨hNumber, hPos⟩ := readStep_eq_ok_iff.1 hStep
        rw [hText]
        exact .stepped (readSpan_eq_ok_iff.1 hSpan) hInner hOuter hNumber hPos
      next => cases h
    · obtain ⟨span, hSpan, h⟩ := bind_eq_ok.1 h
      obtain rfl := Except.ok.inj h
      exact .plain (readSpan_eq_ok_iff.1 hSpan)
  · intro h
    unfold Field.readItem
    cases h with
    | plain hSpan =>
      have hSlash : text.contains '/' = false := by simpa using hSpan.slash_not_mem
      rw [hSlash, readSpan_eq_ok_iff.2 hSpan]
      rfl
    | @stepped text front back digits span step hSpan hFront hBack hStep hPos =>
      rw [map_strip_splitOn_eq hSpan hFront hBack hStep]
      simp [hSpan.ne_nil, hStep.ne_nil, readSpan_eq_ok_iff.2 hSpan,
        readStep_eq_ok_iff.2 ⟨hStep, hPos⟩, ok_bind]

/-- A written item has no blank at its ends. -/
theorem ItemText.ne_nil {text : List Char} {item : Item} (h : ItemText field text item) :
    text ≠ [] := by
  cases h with
  | plain hSpan => exact hSpan.ne_nil
  | stepped => simp

/-- A stripped text is at most one item. -/
theorem ItemText.unique {text : List Char} {item other : Item}
    (h : ItemText field (strip text) item) (h' : ItemText field (strip text) other) :
    item = other := by
  have hItem : field.readItem [] (strip text) = .ok item :=
    (readItem_eq_ok_iff (tight_strip text)).2 h
  have hOther : field.readItem [] (strip text) = .ok other :=
    (readItem_eq_ok_iff (tight_strip text)).2 h'
  rw [hItem] at hOther
  exact Except.ok.inj hOther

/-- The items of a list are read exactly if the grammar has each of them. -/
theorem readItems_eq_ok_iff {context : List Char} {pieces : List (List Char)}
    {items : List Item} :
    field.readItems context pieces = .ok items ↔
      List.Forall₂ (fun piece item => ItemText field (strip piece) item) pieces items := by
  induction pieces generalizing items with
  | nil =>
    rw [Field.readItems, List.forall₂_nil_left_iff, Except.ok.injEq]
    exact eq_comm
  | cons piece pieces ih =>
    rw [List.forall₂_cons_left_iff]
    unfold Field.readItems
    constructor
    · intro h
      simp only at h
      split_ifs at h
      simp only [bind_eq_ok] at h
      obtain ⟨first, hFirst, rest, hRest, h⟩ := h
      exact ⟨first, rest, (readItem_eq_ok_iff (tight_strip piece)).1 hFirst, ih.1 hRest,
        (Except.ok.inj h).symm⟩
    · rintro ⟨first, rest, hFirst, hRest, rfl⟩
      have hNe : (strip piece).isEmpty = false := by simpa using hFirst.ne_nil
      simp only [hNe, (readItem_eq_ok_iff (tight_strip piece)).2 hFirst, ih.2 hRest, ok_bind,
        Bool.false_eq_true, if_false]

/-- A field is read exactly if the grammar has each of its items. -/
theorem read_eq_ok_iff {text : List Char} {items : List Item} :
    field.read text = .ok items ↔
      List.Forall₂ (fun piece item => ItemText field (strip piece) item)
        ((strip text).splitOn ',') items := by
  unfold Field.read
  by_cases hComma : ',' ∈ strip text
  · simp only [List.contains_iff_mem.2 hComma, if_true]
    exact readItems_eq_ok_iff
  · have hNo : (strip text).contains ',' = false := by simpa using hComma
    simp only [hNo, Bool.false_eq_true, if_false, List.splitOn_eq_singleton hComma,
      List.forall₂_cons_left_iff, List.forall₂_nil_left_iff]
    rw [strip_of_tight (tight_strip text)]
    constructor
    · intro h
      obtain ⟨item, hItem, rfl⟩ := map_eq_ok.1 h
      exact ⟨item, [], (readItem_eq_ok_iff (tight_strip text)).1 hItem, rfl, rfl⟩
    · rintro ⟨item, rest, hItem, rfl, rfl⟩
      rw [(readItem_eq_ok_iff (tight_strip text)).2 hItem]
      rfl

end reading

/-! ## The values of an item -/

section values

variable {field : Field} {n : Nat}

/-- A progression lists its steps. -/
theorem mem_progression_iff {first last step : Nat} (hLe : first ≤ last) (hStep : 0 < step) :
    n ∈ progression first last step ↔ Steps first last step n := by
  unfold progression Steps
  rw [List.mem_range']
  constructor
  · rintro ⟨i, hi, rfl⟩
    have hMul : i * step ≤ last - first :=
      (Nat.le_div_iff_mul_le hStep).1 (Nat.lt_succ_iff.1 hi)
    rw [Nat.mul_comm] at hMul
    exact ⟨i, by rw [Nat.mul_comm], by omega⟩
  · rintro ⟨i, rfl, hLast⟩
    have hMul : i * step ≤ last - first := by omega
    exact ⟨i, Nat.lt_succ_iff.2 ((Nat.le_div_iff_mul_le hStep).2 hMul), by rw [Nat.mul_comm]⟩

/-- The first number of the steps is one of them. -/
theorem steps_first {first last step : Nat} (hLe : first ≤ last) : Steps first last step first :=
  ⟨0, by omega, hLe⟩

/-- Numbers reached by steps lie between the first and the last. -/
theorem Steps.bounds {first last step : Nat} (h : Steps first last step n) :
    first ≤ n ∧ n ≤ last := by
  obtain ⟨i, rfl, hLast⟩ := h
  exact ⟨Nat.le_add_right _ _, hLast⟩

/-- Steps over a whole field start within its bounds. -/
theorem Field.stepStart_bounds (field : Field) :
    field.least ≤ field.stepStart ∧ field.stepStart ≤ field.greatest := by
  cases field <;> decide

/-- The listed values of a written item are those that it denotes. -/
theorem mem_values_iff {text : List Char} {item : Item} (h : ItemText field text item) :
    n ∈ item.values field ↔ item.Denotes field n := by
  cases h with
  | plain hSpan =>
    cases hSpan with
    | every => exact Field.mem_values
    | single hNumber => exact List.mem_singleton
    | @range _ _ _ _ a b _ _ _ _ hLe =>
      refine (mem_progression_iff hLe Nat.one_pos).trans ?_
      constructor
      · intro hSteps
        exact hSteps.bounds
      · rintro ⟨hFirst, hLast⟩
        exact ⟨n - a, by omega, hLast⟩
  | stepped hSpan _ _ _ hPos =>
    cases hSpan with
    | every => exact mem_progression_iff field.stepStart_bounds.2 hPos
    | single hNumber => exact mem_progression_iff hNumber.le_greatest hPos
    | range _ _ _ _ hLe => exact mem_progression_iff hLe hPos

/-- A written item denotes values of its field only. -/
theorem Item.Denotes.bounds {text : List Char} {item : Item} (h : ItemText field text item)
    (hDenotes : item.Denotes field n) : field.least ≤ n ∧ n ≤ field.greatest := by
  cases h with
  | plain hSpan =>
    cases hSpan with
    | every => exact hDenotes
    | single hNumber =>
      cases hDenotes
      exact ⟨hNumber.least_le, hNumber.le_greatest⟩
    | range hFirst _ _ hLast _ =>
      exact ⟨hFirst.least_le.trans hDenotes.1, hDenotes.2.trans hLast.le_greatest⟩
  | stepped hSpan _ _ _ _ =>
    cases hSpan with
    | every =>
      have hSteps : Steps field.stepStart field.greatest _ n := hDenotes
      exact ⟨field.stepStart_bounds.1.trans hSteps.bounds.1, hSteps.bounds.2⟩
    | single hNumber =>
      have hSteps : Steps _ field.greatest _ n := hDenotes
      exact ⟨hNumber.least_le.trans hSteps.bounds.1, hSteps.bounds.2⟩
    | range hFirst _ _ hLast _ =>
      have hSteps : Steps _ _ _ n := hDenotes
      exact ⟨hFirst.least_le.trans hSteps.bounds.1, hSteps.bounds.2.trans hLast.le_greatest⟩

/-- A written item denotes at least one value. -/
theorem exists_denotes {text : List Char} {item : Item} (h : ItemText field text item) :
    ∃ n, item.Denotes field n := by
  cases h with
  | plain hSpan =>
    cases hSpan with
    | every => exact ⟨field.least, Nat.le_refl _, field.stepStart_bounds.1.trans field.stepStart_bounds.2⟩
    | single _ => exact ⟨_, rfl⟩
    | range _ _ _ _ hLe => exact ⟨_, Nat.le_refl _, hLe⟩
  | stepped hSpan _ _ _ _ =>
    cases hSpan with
    | every => exact ⟨_, steps_first field.stepStart_bounds.2⟩
    | single hNumber => exact ⟨_, steps_first hNumber.le_greatest⟩
    | range _ _ _ _ hLe => exact ⟨_, steps_first hLe⟩

/-- The union of items is in ascending order and without repetition. -/
theorem pairwise_union (items : List Item) : (field.union items).Pairwise (· < ·) :=
  List.Pairwise.filter _ List.pairwise_lt_range'

end values

/-! ## The field as a whole -/

section related

variable {α β : Type} {R : α → β → Prop} {as : List α} {bs : List β}

/-- Members of a list that all have a partner can be paired with a list of partners. -/
theorem exists_forall₂ (h : ∀ a ∈ as, ∃ b, R a b) : ∃ bs, List.Forall₂ R as bs := by
  induction as with
  | nil => exact ⟨[], .nil⟩
  | cons a as ih =>
    obtain ⟨b, hb⟩ := h a (by simp)
    obtain ⟨bs, hbs⟩ := ih fun a' ha' => h a' (by simp [ha'])
    exact ⟨b :: bs, .cons hb hbs⟩

/-- In lists related member by member every member of the first one has a counterpart. -/
theorem exists_mem_right_of_forall₂ (h : List.Forall₂ R as bs) {a : α} (ha : a ∈ as) :
    ∃ b ∈ bs, R a b := by
  induction h with
  | nil => simp at ha
  | cons hHead _ ih =>
    rcases List.mem_cons.1 ha with rfl | ha
    · exact ⟨_, by simp, hHead⟩
    · obtain ⟨b, hb, hR⟩ := ih ha
      exact ⟨b, by simp [hb], hR⟩

/-- In lists related member by member every member of the second one has a counterpart. -/
theorem exists_mem_left_of_forall₂ (h : List.Forall₂ R as bs) {b : β} (hb : b ∈ bs) :
    ∃ a ∈ as, R a b :=
  exists_mem_right_of_forall₂ h.flip hb

end related

/-- The field of a name that it has itself. -/
theorem parseNamedField_name (field : Field) (text : String) :
    parseNamedField (.text field.name) (.text text) = field.parseText text := by
  have hName : Field.ofNameValue (.text field.name) = .ok field := by cases field <;> rfl
  unfold parseNamedField
  rw [hName]
  rfl

/-- The values of a field that was read are those of its items. -/
theorem parseText_eq_ok_iff {field : Field} {text : String} {values : List Nat} :
    field.parseText text = .ok values ↔
      ∃ items, field.read text.toList = .ok items ∧ values = field.union items := by
  unfold Field.parseText Field.parse
  cases hRead : field.read text.toList with
  | error e =>
    simp only [Except.map, reduceCtorEq, false_and, exists_false, iff_false]
    cases e <;> simp
  | ok items =>
    simp only [Except.map, Except.ok.injEq, exists_eq_left']
    exact eq_comm

/-- The union of items that were read holds the numbers that one of the written items denotes. -/
theorem mem_union_iff {field : Field} {pieces : List (List Char)} {items : List Item} {n : Nat}
    (h : List.Forall₂ (fun piece item => ItemText field (strip piece) item) pieces items) :
    n ∈ field.union items ↔
      ∃ piece ∈ pieces, ∃ item, ItemText field (strip piece) item ∧ item.Denotes field n := by
  unfold Field.union
  simp only [List.mem_filter, List.any_eq_true, List.contains_iff_mem]
  constructor
  · rintro ⟨-, item, hItem, hn⟩
    obtain ⟨piece, hPiece, hText⟩ := exists_mem_left_of_forall₂ h hItem
    exact ⟨piece, hPiece, item, hText, (mem_values_iff hText).1 hn⟩
  · rintro ⟨piece, hPiece, item, hText, hn⟩
    obtain ⟨read, hRead, hReadText⟩ := exists_mem_right_of_forall₂ h hPiece
    obtain rfl := hText.unique hReadText
    exact ⟨Field.mem_values.2 (hn.bounds hText), item, hRead, (mem_values_iff hText).2 hn⟩

/-- The union of items that were read is not empty, as the first item denotes something. -/
theorem union_ne_nil {field : Field} {text : List Char} {items : List Item}
    (h : List.Forall₂ (fun piece item => ItemText field (strip piece) item)
      ((strip text).splitOn ',') items) : field.union items ≠ [] := by
  obtain ⟨piece, hPiece⟩ := List.exists_mem_of_ne_nil _ (List.splitOn_ne_nil ',' (strip text))
  obtain ⟨item, -, hItem⟩ := exists_mem_right_of_forall₂ h hPiece
  obtain ⟨n, hn⟩ := exists_denotes hItem
  exact List.ne_nil_of_mem ((mem_union_iff h).2 ⟨piece, hPiece, item, hItem, hn⟩)

/-- The values of a field that was read are some of the values of the field. -/
theorem Field.parse_values {field : Field} {text : List Char} {values : List Nat}
    (h : field.parse text = .ok values) :
    values ≠ [] ∧ ∀ n ∈ values, field.least ≤ n ∧ n ≤ field.greatest := by
  obtain ⟨items, hRead, rfl⟩ := map_eq_ok.1 h
  refine ⟨union_ne_nil (read_eq_ok_iff.1 hRead), fun n hn => ?_⟩
  exact Field.mem_values.1 (List.mem_filter.1 hn).1

/-- **The grammar of a field.** A text is read as a field exactly if every item of the stripped text,
stripped itself, is in the grammar.  The values read are then the numbers that some item denotes, in
strictly ascending order, and there is at least one. -/
theorem parseNamedField_grammar (field : Field) (text : String) :
    ((∃ values, parseNamedField (.text field.name) (.text text) = .ok values) ↔
      ∀ piece ∈ (strip text.toList).splitOn ',', ∃ item, ItemText field (strip piece) item) ∧
    ∀ values, parseNamedField (.text field.name) (.text text) = .ok values →
      values.Pairwise (· < ·) ∧ values ≠ [] ∧
        ∀ n, n ∈ values ↔
          ∃ piece ∈ (strip text.toList).splitOn ',', ∃ item,
            ItemText field (strip piece) item ∧ item.Denotes field n := by
  simp only [parseNamedField_name, parseText_eq_ok_iff, read_eq_ok_iff]
  constructor
  · constructor
    · rintro ⟨_, items, hItems, -⟩ piece hPiece
      obtain ⟨item, -, hItem⟩ := exists_mem_right_of_forall₂ hItems hPiece
      exact ⟨item, hItem⟩
    · intro h
      obtain ⟨items, hItems⟩ := exists_forall₂ h
      exact ⟨_, items, hItems, rfl⟩
  · rintro values ⟨items, hItems, rfl⟩
    have hMem : ∀ n, n ∈ field.union items ↔
        ∃ piece ∈ (strip text.toList).splitOn ',', ∃ item,
          ItemText field (strip piece) item ∧ item.Denotes field n :=
      fun n => mem_union_iff hItems
    exact ⟨pairwise_union items, union_ne_nil hItems, hMem⟩

end Crontab
