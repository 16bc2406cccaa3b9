import Crontab.Proofs.Text.Numerals
import Crontab.Text.Blank
import Mathlib.Data.List.TakeWhile

/-!
# Stripping and splitting texts

What stripping leaves of a text and what it takes away, and what splitting at a sign says about the
text that was split.

* `Blanks`, `Tight` — texts of blanks only, and texts without a blank at either end;
* `strip_append`, `exists_strip_eq` — stripping takes away blanks and nothing else;
* `splitOn_eq_pair_iff` — the texts that fall into two parts at a sign;
* `Solid`, `solid_of_mem_words` — texts without blanks, as words are;
* `words_intercalate` — words that are joined fall apart into the same words.
-/

namespace Crontab.Text

/-- A text of blanks only. -/
def Blanks (text : List Char) : Prop :=
  ∀ c ∈ text, isBlank c = true

/-- A text that neither starts nor ends with a blank. -/
structure Tight (text : List Char) : Prop where
  head : ∀ c ∈ text.head?, isBlank c = false
  last : ∀ c ∈ text.getLast?, isBlank c = false

/-- The empty text is blank. -/
theorem blanks_nil : Blanks [] := by
  intro c h
  simp at h

/-! ## Stripping -/

/-- Blanks in front do not count. -/
theorem stripStart_append_of_blanks {front : List Char} (h : Blanks front) (text : List Char) :
    stripStart (front ++ text) = stripStart text :=
  List.dropWhile_append_of_pos h

/-- A text that does not start with a blank stays as it is. -/
theorem stripStart_eq_self {text : List Char} (h : ∀ c ∈ text.head?, isBlank c = false) :
    stripStart text = text := by
  cases text with
  | nil => rfl
  | cons c rest => simp [stripStart, h c (by simp)]

/-- What stands in front of a text without its leading blanks is blank. -/
theorem exists_stripStart_eq (text : List Char) :
    ∃ front, Blanks front ∧ text = front ++ stripStart text :=
  ⟨text.takeWhile isBlank, fun _ hc => List.mem_takeWhile_imp hc,
    (List.takeWhile_append_dropWhile).symm⟩

/-- What is left does not start with a blank. -/
theorem head?_stripStart (text : List Char) : ∀ c ∈ (stripStart text).head?, isBlank c = false := by
  intro c hc
  unfold stripStart at hc
  have hHead := List.head?_dropWhile_not isBlank text
  rw [Option.mem_def.1 hc] at hHead
  simpa using hHead

/-- Blanks at the end do not count. -/
theorem stripEnd_append_of_blanks {back : List Char} (h : Blanks back) (text : List Char) :
    stripEnd (text ++ back) = stripEnd text := by
  have hBack : Blanks back.reverse := fun c hc => h c (List.mem_reverse.1 hc)
  unfold stripEnd
  rw [List.reverse_append]
  exact congrArg List.reverse (stripStart_append_of_blanks hBack text.reverse)

/-- A text that does not end with a blank stays as it is. -/
theorem stripEnd_eq_self {text : List Char} (h : ∀ c ∈ text.getLast?, isBlank c = false) :
    stripEnd text = text := by
  unfold stripEnd
  have hStart : stripStart text.reverse = text.reverse :=
    stripStart_eq_self (by rwa [List.head?_reverse])
  rw [stripStart] at hStart
  rw [hStart, List.reverse_reverse]

/-- What stands behind a text without its trailing blanks is blank. -/
theorem exists_stripEnd_eq (text : List Char) :
    ∃ back, Blanks back ∧ text = stripEnd text ++ back := by
  obtain ⟨front, hFront, hEq⟩ := exists_stripStart_eq text.reverse
  refine ⟨front.reverse, fun c hc => hFront c (List.mem_reverse.1 hc), ?_⟩
  have hText := congrArg List.reverse hEq
  rw [List.reverse_reverse, List.reverse_append] at hText
  exact hText

/-- What is left does not end with a blank. -/
theorem getLast?_stripEnd (text : List Char) :
    ∀ c ∈ (stripEnd text).getLast?, isBlank c = false := by
  intro c hc
  unfold stripEnd at hc
  rw [List.getLast?_reverse] at hc
  exact head?_stripStart text.reverse c hc

/-- Stripping a text leaves it without a blank at either end. -/
theorem tight_strip (text : List Char) : Tight (strip text) where
  head := by
    intro c hc
    obtain ⟨back, -, hEq⟩ := exists_stripEnd_eq (stripStart text)
    apply head?_stripStart text c
    rw [hEq]
    unfold strip at hc
    cases hStrip : stripEnd (stripStart text) with
    | nil => simp [hStrip] at hc
    | cons d rest => simpa [hStrip] using hc
  last := getLast?_stripEnd _

/-- Stripping takes blanks away from around a tight text. -/
theorem strip_append {front text back : List Char} (hFront : Blanks front) (hText : Tight text)
    (hBack : Blanks back) : strip (front ++ text ++ back) = text := by
  unfold strip
  rw [List.append_assoc, stripStart_append_of_blanks hFront]
  cases text with
  | nil =>
    have hStart : stripStart back = [] := List.dropWhile_eq_nil_iff.2 hBack
    rw [List.nil_append, hStart]
    rfl
  | cons c rest =>
    rw [stripStart_eq_self (by simpa using hText.head c (by simp)), stripEnd_append_of_blanks hBack]
    exact stripEnd_eq_self hText.last

/-- A text with no blank at either end stays as it is. -/
theorem strip_of_tight {text : List Char} (h : Tight text) : strip text = text := by
  have := strip_append blanks_nil h blanks_nil
  simpa using this

/-- Stripping takes nothing but blanks away. -/
theorem exists_strip_eq (text : List Char) :
    ∃ front back, Blanks front ∧ Blanks back ∧ text = front ++ strip text ++ back := by
  obtain ⟨front, hFront, hText⟩ := exists_stripStart_eq text
  obtain ⟨back, hBack, hRest⟩ := exists_stripEnd_eq (stripStart text)
  refine ⟨front, back, hFront, hBack, ?_⟩
  rw [List.append_assoc]
  unfold strip
  rw [← hRest]
  exact hText

/-- Blanks at the start of a tight text are none. -/
theorem Tight.eq_nil_of_append {front text : List Char} (h : Tight (front ++ text))
    (hFront : Blanks front) : front = [] := by
  cases front with
  | nil => rfl
  | cons c rest =>
    have hBlank := hFront c (by simp)
    have hNot := h.head c (by simp)
    simp [hBlank] at hNot

/-- Blanks at the end of a tight text are none. -/
theorem Tight.eq_nil_of_append' {text back : List Char} (h : Tight (text ++ back))
    (hBack : Blanks back) : back = [] := by
  rcases List.eq_nil_or_concat back with rfl | ⟨rest, c, rfl⟩
  · rfl
  · have hBlank := hBack c (by simp)
    have hNot := h.last c (by simp)
    simp [hBlank] at hNot

/-! ## Numerals are tight -/

/-- No digit is a blank. -/
theorem isBlank_of_isDigit {c : Char} (h : c.isDigit = true) : isBlank c = false := by
  have hRange : 48 ≤ c.toNat ∧ c.toNat ≤ 57 := by
    simpa [Char.isDigit, UInt32.le_iff_toNat_le] using h
  simp only [isBlank, inRanges, blankRanges, List.any_cons, List.any_nil, Bool.or_false,
    Bool.or_eq_false_iff, Bool.and_eq_false_imp, decide_eq_true_eq, decide_eq_false_iff_not]
  omega

/-- A numeral has no blank at its ends. -/
theorem tight_of_isNumeral {text : List Char} (h : isNumeral text = true) : Tight text where
  head := fun c hc => isBlank_of_isDigit (isDigit_of_isNumeral h c (List.mem_of_mem_head? hc))
  last := fun c hc => isBlank_of_isDigit (isDigit_of_isNumeral h c (List.mem_of_getLast? hc))

/-- A sign that is no blank does not occur in a text of blanks. -/
theorem Blanks.not_mem {text : List Char} (h : Blanks text) {c : Char} (hc : isBlank c = false) :
    c ∉ text := by
  intro hMem
  simp [h c hMem] at hc

/-! ## Splitting -/

/-- A text falls into two parts at a sign exactly if it is the two parts around that sign, and
neither part holds it. -/
theorem splitOn_eq_pair_iff {text first last : List Char} {sign : Char} :
    text.splitOn sign = [first, last] ↔
      text = first ++ sign :: last ∧ sign ∉ first ∧ sign ∉ last := by
  constructor
  · intro h
    have hText : text = first ++ sign :: last := by
      have hJoin : [sign].intercalate (text.splitOn sign) = text := List.intercalate_splitOn sign
      rw [← hJoin, h]
      simp [List.intercalate, List.intersperse]
    have hFirst : sign ∉ first := by
      intro hMem
      obtain ⟨a, b, rfl⟩ := List.append_of_mem hMem
      subst hText
      rw [List.append_assoc, List.cons_append, List.splitOn_append_cons_self,
        List.splitOn_append_cons_self] at h
      have hLength := congrArg List.length h
      have hA := List.length_pos_iff.2 (List.splitOn_ne_nil sign a)
      have hB := List.length_pos_iff.2 (List.splitOn_ne_nil sign b)
      have hC := List.length_pos_iff.2 (List.splitOn_ne_nil sign last)
      simp only [List.length_append, List.length_cons, List.length_nil] at hLength
      omega
    refine ⟨hText, hFirst, ?_⟩
    intro hMem
    obtain ⟨a, b, rfl⟩ := List.append_of_mem hMem
    subst hText
    rw [List.splitOn_append_cons_self, List.splitOn_append_cons_self] at h
    have hLength := congrArg List.length h
    have hA := List.length_pos_iff.2 (List.splitOn_ne_nil sign a)
    have hB := List.length_pos_iff.2 (List.splitOn_ne_nil sign b)
    have hC := List.length_pos_iff.2 (List.splitOn_ne_nil sign first)
    simp only [List.length_append, List.length_cons, List.length_nil] at hLength
    omega
  · rintro ⟨rfl, hFirst, hLast⟩
    rw [List.splitOn_append_cons_self_of_not_mem hFirst, List.splitOn_eq_singleton hLast]

/-- The pieces of a joined list are parts of the result. -/
theorem isInfix_intercalate {glue piece : List Char} {pieces : List (List Char)}
    (h : piece ∈ pieces) : piece <:+: glue.intercalate pieces := by
  induction pieces with
  | nil => simp at h
  | cons first rest ih =>
    cases rest with
    | nil =>
      obtain rfl := List.mem_singleton.1 h
      simpa only [List.intercalate_singleton] using List.infix_refl piece
    | cons second others =>
      rw [List.intercalate_cons_cons]
      rcases List.mem_cons.1 h with rfl | hRest
      · exact ⟨[], glue ++ glue.intercalate (second :: others), by simp⟩
      · exact List.infix_append_of_infix_right (ih hRest)

/-- What a text is split into are parts of it. -/
theorem isInfix_of_mem_splitOn {text piece : List Char} {sign : Char}
    (h : piece ∈ text.splitOn sign) : piece <:+: text := by
  have hJoined : piece <:+: [sign].intercalate (text.splitOn sign) := isInfix_intercalate h
  rwa [List.intercalate_splitOn] at hJoined

/-! ## Words -/

/-- A text without blanks. -/
def Solid (text : List Char) : Prop :=
  ∀ c ∈ text, isBlank c = false

namespace Solid

variable {text part : List Char}

/-- A text without blanks has none at its ends. -/
theorem tight (h : Solid text) : Tight text where
  head := fun c hc => h c (List.mem_of_mem_head? hc)
  last := fun c hc => h c (List.mem_of_getLast? hc)

/-- A part of a text without blanks has none either. -/
theorem of_isInfix (h : Solid text) (hPart : part <:+: text) : Solid part :=
  fun c hc => h c (hPart.subset hc)

/-- A text without blanks stays as it is. -/
theorem strip_eq (h : Solid text) : strip text = text :=
  strip_of_tight h.tight

/-- What solid texts make up is solid. -/
theorem intercalate {glue : List Char} {pieces : List (List Char)} (hGlue : Solid glue)
    (h : ∀ piece ∈ pieces, Solid piece) : Solid (glue.intercalate pieces) := by
  induction pieces with
  | nil => simp [Solid]
  | cons first rest ih =>
    obtain ⟨hFirst, hRest⟩ := List.forall_mem_cons.1 h
    cases rest with
    | nil => rwa [List.intercalate_singleton]
    | cons second others =>
      rw [List.intercalate_cons_cons]
      intro c hc
      rw [List.mem_append, List.mem_append] at hc
      rcases hc with (hc | hc) | hc
      · exact hFirst c hc
      · exact hGlue c hc
      · exact ih hRest c hc

end Solid

/-- A numeral has no blanks. -/
theorem solid_of_isNumeral {text : List Char} (h : isNumeral text = true) : Solid text :=
  fun c hc => isBlank_of_isDigit (isDigit_of_isNumeral h c hc)

/-- What is left between the cuts does not hold what is cut at. -/
theorem not_of_mem_splitOnP {p : Char → Bool} {text piece : List Char}
    (h : piece ∈ text.splitOnP p) : ∀ c ∈ piece, p c = false := by
  induction text generalizing piece with
  | nil =>
    obtain rfl : piece = [] := by simpa using h
    simp
  | cons d rest ih =>
    rw [List.splitOnP_cons_eq_if_modifyHead] at h
    split_ifs at h with hCut
    · rcases List.mem_cons.1 h with rfl | hRest
      · simp
      · exact ih hRest
    · cases hSplit : rest.splitOnP p with
      | nil => exact absurd hSplit (List.splitOnP_ne_nil p rest)
      | cons first others =>
        rw [hSplit, List.modifyHead_cons] at h
        rcases List.mem_cons.1 h with rfl | hOthers
        · intro c hc
          rcases List.mem_cons.1 hc with rfl | hFirst
          · exact Bool.eq_false_iff.2 hCut
          · exact ih (hSplit ▸ List.mem_cons_self) c hFirst
        · exact ih (hSplit ▸ List.mem_cons_of_mem _ hOthers)

/-- Words have no blanks. -/
theorem solid_of_mem_words {text word : List Char} (h : word ∈ words text) : Solid word :=
  not_of_mem_splitOnP (List.mem_filter.1 h).1

/-- Words with single spaces between them are the words of the text that they make up. -/
theorem words_intercalate {pieces : List (List Char)}
    (h : ∀ piece ∈ pieces, Solid piece ∧ piece ≠ []) : words ([' '].intercalate pieces) = pieces := by
  induction pieces with
  | nil => simp [words]
  | cons first rest ih =>
    obtain ⟨⟨hSolid, hNe⟩, hRest⟩ := List.forall_mem_cons.1 h
    have hKept : (!first.isEmpty) = true := by simpa using hNe
    cases rest with
    | nil =>
      rw [List.intercalate_singleton, words, List.splitOnP_eq_singleton hSolid,
        List.filter_cons, if_pos hKept, List.filter_nil]
    | cons second others =>
      have hOthers := ih hRest
      unfold words at hOthers ⊢
      rw [List.intercalate_cons_cons, List.append_assoc, List.singleton_append,
        List.splitOnP_append_cons_of_forall_mem hSolid ' ' (by decide),
        List.filter_cons, if_pos hKept, hOthers]

end Crontab.Text
