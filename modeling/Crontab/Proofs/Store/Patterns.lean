import Crontab.Store.Like
import Mathlib.Data.List.Infix

/-!
# What searches of tables find

The search for a start finds more than the keys with that start: the case of ASCII letters does not
count, and a NUL character ends the start and the key alike.

* `hasLikePrefix_iff` — the keys that a search finds;
* `hasLikePrefix_append` — among them all keys with its start;
* `SearchesApart` — starts whose searches do not find each other;
* `SearchesApart.not_hasLikePrefix` — then no key is found by both;
* `searchesApart_iff` — starts without a NUL character.
-/

namespace Crontab

/-! ## Patterns with escaped characters -/

section patterns

variable {chars text : List Char}

/-- The characters of a start as they stand in its pattern. -/
def escapedLike (chars : List Char) : List Char :=
  chars.flatMap fun c => if isLikeChar c then ['/', c] else [c]

/-- Characters with a meaning in patterns stand behind a slash, and all others for themselves. -/
theorem escapedLike_cons (c : Char) (chars : List Char) :
    escapedLike (c :: chars) = (if isLikeChar c then ['/', c] else [c]) ++ escapedLike chars :=
  List.flatMap_cons

/-- An escaped character takes the first character of a text: itself, or the same letter in the other
case. -/
theorem likeMatches_escaped (c : Char) (pattern text : List Char) :
    likeMatches ((if isLikeChar c then ['/', c] else [c]) ++ pattern) text =
      match text with
      | [] => false
      | d :: text => sameLetter c d && likeMatches pattern text := by
  by_cases hLike : isLikeChar c = true
  · rw [if_pos hLike, List.cons_append, List.singleton_append]
    cases text <;> rw [likeMatches]
  · have hNot : c ≠ '%' ∧ c ≠ '_' ∧ c ≠ '/' := by
      simpa [isLikeChar, not_or, and_assoc] using hLike
    rw [if_neg hLike, List.singleton_append]
    cases text
    all_goals
      rw [likeMatches]
      · exact hNot.1
      · exact hNot.2.1
      · rintro rfl
        exact absurd rfl hNot.2.2
      · rintro _ _ rfl
        exact absurd rfl hNot.2.2

/-- An escaped character matches its own letter. -/
theorem likeMatches_escaped_cons (c : Char) (pattern : List Char) (d : Char) (text : List Char) :
    likeMatches ((if isLikeChar c then ['/', c] else [c]) ++ pattern) (d :: text) =
      (sameLetter c d && likeMatches pattern text) :=
  likeMatches_escaped c pattern (d :: text)

/-- An escaped character does not match the end of a text. -/
theorem likeMatches_escaped_nil (c : Char) (pattern : List Char) :
    likeMatches ((if isLikeChar c then ['/', c] else [c]) ++ pattern) [] = false :=
  likeMatches_escaped c pattern []

/-- Two characters are the same letter if they are as small letters. -/
theorem sameLetter_iff {a b : Char} : sameLetter a b = true ↔ a.toLower = b.toLower := by
  rw [sameLetter, decide_eq_true_iff]

/-- A test that the empty text passes is passed by some end of every text. -/
theorem anyEnd_of_nil {test : List Char → Bool} (h : test [] = true) (chars : List Char) :
    anyEnd test chars = true := by
  induction chars with
  | nil => exact h
  | cons c chars ih => rw [anyEnd, ih, Bool.or_true]

/-- Escaped characters match themselves, whatever the case of their letters. -/
theorem likeMatches_escapedLike_iff :
    likeMatches (escapedLike chars) text = true ↔
      text.map Char.toLower = chars.map Char.toLower := by
  induction chars generalizing text with
  | nil => cases text <;> simp [escapedLike, likeMatches]
  | cons c chars ih =>
    rw [escapedLike_cons]
    cases text with
    | nil => rw [likeMatches_escaped_nil]; simp
    | cons d text =>
      rw [likeMatches_escaped_cons, Bool.and_eq_true, sameLetter_iff, ih, List.map_cons,
        List.map_cons, List.cons.injEq]
      exact and_congr_left' eq_comm

/-- With a percent sign behind them they match whatever starts like that. -/
theorem likeMatches_escapedLike_percent_iff :
    likeMatches (escapedLike chars ++ ['%']) text = true ↔
      chars.map Char.toLower <+: text.map Char.toLower := by
  induction chars generalizing text with
  | nil => exact iff_of_true (anyEnd_of_nil rfl _) List.nil_prefix
  | cons c chars ih =>
    rw [escapedLike_cons, List.append_assoc]
    cases text with
    | nil => rw [likeMatches_escaped_nil]; simp
    | cons d text =>
      rw [likeMatches_escaped_cons, Bool.and_eq_true, sameLetter_iff, ih, List.map_cons,
        List.map_cons, List.cons_prefix_cons]

/-! ## NUL characters -/

/-- A NUL character has no meaning in patterns. -/
theorem isLikeChar_of_nul {c : Char} (h : c.toNat = 0) : isLikeChar c = false := by
  have hChar : c = Char.ofNat 0 := by rw [← h, Char.ofNat_toNat]
  rw [hChar]
  decide

/-- Nothing stands before a NUL character at the start. -/
theorem beforeNul_cons_of_nul {c : Char} (h : c.toNat = 0) (text : List Char) :
    beforeNul (c :: text) = [] :=
  List.takeWhile_cons_of_neg (by simpa using h)

/-- Any other character at the start stands before the first NUL character. -/
theorem beforeNul_cons {c : Char} (h : c.toNat ≠ 0) (text : List Char) :
    beforeNul (c :: text) = c :: beforeNul text :=
  List.takeWhile_cons_of_pos (by simpa using h)

/-- A text goes on behind its start up to a NUL character, unless there is one in the start. -/
theorem beforeNul_append (front back : List Char) :
    beforeNul (front ++ back) =
      if front.any (·.toNat = 0) then beforeNul front else front ++ beforeNul back := by
  induction front with
  | nil => rfl
  | cons c front ih =>
    rw [List.cons_append, List.any_cons]
    by_cases hNul : c.toNat = 0
    · rw [beforeNul_cons_of_nul hNul, beforeNul_cons_of_nul hNul, decide_eq_true hNul, Bool.true_or,
        if_pos rfl]
    · rw [beforeNul_cons hNul, beforeNul_cons hNul, ih, decide_eq_false hNul, Bool.false_or]
      split <;> rfl

/-- An escaped character stands before the first NUL character. -/
theorem beforeNul_escaped {c : Char} (h : c.toNat ≠ 0) (text : List Char) :
    beforeNul ((if isLikeChar c then ['/', c] else [c]) ++ text) =
      (if isLikeChar c then ['/', c] else [c]) ++ beforeNul text := by
  have hSlash : '/'.toNat ≠ 0 := by decide
  split
  · rw [List.cons_append, List.singleton_append, beforeNul_cons hSlash, beforeNul_cons h]
    rfl
  · exact beforeNul_cons h text

/-- Whether a text holds a NUL character, and so ends at it. -/
def endsAtNul (text : String) : Bool :=
  text.toList.any (·.toNat = 0)

/-- The pattern for a start ends at its first NUL character, or with a percent sign. -/
theorem beforeNul_escapedLike (chars : List Char) :
    beforeNul (escapedLike chars ++ ['%']) =
      if chars.any (·.toNat = 0) then escapedLike (beforeNul chars)
      else escapedLike (beforeNul chars) ++ ['%'] := by
  induction chars with
  | nil => rfl
  | cons c chars ih =>
    rw [escapedLike_cons, List.append_assoc]
    by_cases hNul : c.toNat = 0
    · rw [isLikeChar_of_nul hNul, if_neg Bool.false_ne_true, List.singleton_append,
        beforeNul_cons_of_nul hNul, List.any_cons, decide_eq_true hNul, Bool.true_or, if_pos rfl,
        beforeNul_cons_of_nul hNul]
      rfl
    · rw [beforeNul_escaped hNul, ih, beforeNul_cons hNul, escapedLike_cons, List.any_cons,
        decide_eq_false hNul, Bool.false_or]
      cases chars.any (·.toNat = 0) with
      | true => rfl
      | false =>
        rw [if_neg Bool.false_ne_true, if_neg Bool.false_ne_true, List.append_assoc]

end patterns

/-- A text that does not end at a NUL character counts as a whole. -/
theorem beforeNul_eq_self {text : String} (h : endsAtNul text = false) :
    beforeNul text.toList = text.toList := by
  have hAppend := beforeNul_append text.toList []
  have hNil : beforeNul [] = [] := rfl
  rw [endsAtNul] at h
  rwa [h, if_neg Bool.false_ne_true, hNil, List.append_nil] at hAppend

/-! ## Searches -/

section searches

variable {start other key : String}

/-- What of a text counts in a search: what stands before its first NUL character, in small
letters. -/
def likeFold (text : String) : List Char :=
  (beforeNul text.toList).map Char.toLower

/-- **Searches of tables.** A search finds the keys that begin like its start, in small letters and up
to a NUL character; if there is one in the start, then those that are all like it. -/
theorem hasLikePrefix_iff :
    hasLikePrefix start key = true ↔
      if endsAtNul start then likeFold key = likeFold start
      else likeFold start <+: likeFold key := by
  have hPattern : beforeNul (likePattern start) =
      if endsAtNul start then escapedLike (beforeNul start.toList)
      else escapedLike (beforeNul start.toList) ++ ['%'] :=
    beforeNul_escapedLike start.toList
  rw [hasLikePrefix, hPattern]
  split
  · exact likeMatches_escapedLike_iff
  · exact likeMatches_escapedLike_percent_iff

/-- **Starts.** The search for a start finds all texts with that start. -/
theorem hasLikePrefix_append (start rest : String) : hasLikePrefix start (start ++ rest) = true := by
  rw [hasLikePrefix_iff, likeFold, likeFold, String.toList_append, beforeNul_append, ← endsAtNul]
  cases hCut : endsAtNul start with
  | true => rfl
  | false =>
    rw [if_neg Bool.false_ne_true, if_neg Bool.false_ne_true, beforeNul_eq_self hCut, List.map_append]
    exact List.prefix_append _ _

/-- The searches for two starts do not find each other's start. -/
def SearchesApart (start other : String) : Prop :=
  hasLikePrefix start other = false ∧ hasLikePrefix other start = false

instance (start other : String) : Decidable (SearchesApart start other) :=
  inferInstanceAs (Decidable (_ ∧ _))

/-- **Keys of two stores.** A key is found by only one of two searches that are apart. -/
theorem SearchesApart.not_hasLikePrefix (h : SearchesApart start other)
    (hKey : hasLikePrefix start key = true) : hasLikePrefix other key = false := by
  rw [Bool.eq_false_iff]
  intro hOther
  obtain ⟨hStart, hBack⟩ := h
  rw [Bool.eq_false_iff, Ne, hasLikePrefix_iff] at hStart hBack
  rw [hasLikePrefix_iff] at hKey hOther
  cases hCut : endsAtNul start <;> cases hOtherCut : endsAtNul other <;>
    simp only [hCut, hOtherCut, Bool.false_eq_true, if_true, if_false] at hKey hOther hStart hBack
  · rcases List.prefix_or_prefix_of_prefix hKey hOther with hPrefix | hPrefix
    · exact hStart hPrefix
    · exact hBack hPrefix
  · exact hStart (hOther ▸ hKey)
  · exact hBack (hKey ▸ hOther)
  · exact hStart (hOther.symm.trans hKey)

/-- Searches for starts without a NUL character are apart if neither start begins like the other one,
in small letters. -/
theorem searchesApart_iff (hStart : endsAtNul start = false) (hOther : endsAtNul other = false) :
    SearchesApart start other ↔
      ¬start.toList.map Char.toLower <+: other.toList.map Char.toLower ∧
        ¬other.toList.map Char.toLower <+: start.toList.map Char.toLower := by
  have hFold : ∀ {text : String}, endsAtNul text = false →
      likeFold text = text.toList.map Char.toLower := by
    intro text hText
    rw [likeFold, beforeNul_eq_self hText]
  rw [SearchesApart, Bool.eq_false_iff, Bool.eq_false_iff, Ne, Ne, hasLikePrefix_iff,
    hasLikePrefix_iff, hStart, hOther, hFold hStart, hFold hOther]
  rfl

end searches

end Crontab
