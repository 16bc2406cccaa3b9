import Mathlib.Data.List.Basic
import Mathlib.Data.List.Chain

/-!
# Phrases behind commas

A phrase is made of words with single spaces between them, and a list of phrases of phrases with a
comma and a space between them.  The words of a phrase may hold commas themselves, as long as none of
them ends with one, and the phrases of a list can be told apart all the same.

* `Unbroken`, `unbroken_intercalate` — texts in which no comma is followed by a space;
* `eq_of_intercalate_eq` — the phrases of a list can be told apart;
* `eq_of_map_intercalate_eq` — and so can the words of each of them.
-/

namespace Crontab.Text

/-- No comma in the text is followed by a space, not even by one behind its end. -/
def Unbroken (text : List Char) : Prop :=
  (text ++ [' ']).IsChain fun c d => c = ',' → d ≠ ' '

/-- A text without spaces that does not end with a comma. -/
structure IsPhraseWord (text : List Char) : Prop where
  space_not_mem : ' ' ∉ text
  last : ',' ∉ text.getLast?

/-- What is listed behind a first phrase. -/
def furtherPhrases (phrases : List (List Char)) : List Char :=
  phrases.flatMap fun phrase => ',' :: ' ' :: phrase

section unbroken

variable {text : List Char} {pieces phrases others : List (List Char)}

/-- A word is unbroken. -/
theorem IsPhraseWord.unbroken (h : IsPhraseWord text) : Unbroken text := by
  refine List.isChain_append.2 ⟨?_, List.isChain_singleton _, ?_⟩
  · refine List.isChain_iff_forall_rel_of_append_cons_cons.2 ?_
    rintro c d front back rfl - rfl
    exact h.space_not_mem (by simp)
  · rintro c hc d - rfl
    exact absurd hc h.last

/-- An unbroken text has no comma in front of a space, not even of one behind its end. -/
theorem Unbroken.ne_append (h : Unbroken text) (front back : List Char) :
    text ++ [' '] ≠ front ++ ',' :: ' ' :: back := by
  intro hText
  exact List.isChain_iff_forall_rel_of_append_cons_cons.1 h hText rfl rfl

/-- Words that are joined by spaces stay unbroken. -/
theorem unbroken_intercalate (h : ∀ piece ∈ pieces, IsPhraseWord piece) :
    Unbroken ([' '].intercalate pieces) := by
  induction pieces with
  | nil => exact List.isChain_singleton _
  | cons first rest ih =>
    obtain ⟨hFirst, hRest⟩ := List.forall_mem_cons.1 h
    cases rest with
    | nil =>
      rw [List.intercalate_singleton]
      exact hFirst.unbroken
    | cons second others =>
      rw [List.intercalate_cons_cons, Unbroken, List.append_assoc]
      refine List.isChain_append.2 ⟨hFirst.unbroken, ih hRest, ?_⟩
      intro c hc d _ hComma
      rw [List.getLast?_concat] at hc
      cases hc
      cases hComma

/-- A listing is its first phrase and what the further ones add. -/
theorem intercalate_cons_eq (phrase : List Char) (phrases : List (List Char)) :
    [',', ' '].intercalate (phrase :: phrases) = phrase ++ furtherPhrases phrases := by
  induction phrases generalizing phrase with
  | nil => simp [furtherPhrases]
  | cons second others ih =>
    rw [List.intercalate_cons_cons, ih, furtherPhrases, furtherPhrases]
    simp

/-- An unbroken text does not reach into what is listed behind a part of it. -/
theorem eq_nil_of_unbroken {front more rest : List Char} (h : Unbroken (front ++ more))
    (hRest : furtherPhrases phrases = more ++ rest) : more = [] := by
  cases phrases with
  | nil => exact (List.append_eq_nil_iff.1 hRest.symm).1
  | cons phrase phrases =>
    have hComma : ',' :: ' ' :: (phrase ++ furtherPhrases phrases) = more ++ rest := hRest
    rcases more with _ | ⟨c, more⟩
    · rfl
    · obtain ⟨rfl, hSpace⟩ := List.cons_eq_cons.1 hComma
      rcases more with _ | ⟨d, more⟩
      · exact absurd (by simp) (h.ne_append front [])
      · obtain ⟨rfl, -⟩ := List.cons_eq_cons.1 hSpace
        exact absurd (by simp) (h.ne_append front (more ++ [' ']))

/-- The first phrase of a list can be told from the others. -/
theorem eq_of_append_furtherPhrases_eq {phrase other : List Char} (h : Unbroken phrase)
    (hOther : Unbroken other)
    (hSame : phrase ++ furtherPhrases phrases = other ++ furtherPhrases others) :
    phrase = other ∧ furtherPhrases phrases = furtherPhrases others := by
  rcases List.append_eq_append_iff.1 hSame with ⟨more, rfl, hRest⟩ | ⟨more, rfl, hRest⟩
  · obtain rfl := eq_nil_of_unbroken hOther hRest
    exact ⟨by simp, hRest⟩
  · obtain rfl := eq_nil_of_unbroken h hRest
    exact ⟨by simp, hRest.symm⟩

/-- Unbroken phrases can be told from what is listed of them. -/
theorem eq_of_furtherPhrases_eq (h : ∀ phrase ∈ phrases, Unbroken phrase)
    (hOthers : ∀ phrase ∈ others, Unbroken phrase)
    (hSame : furtherPhrases phrases = furtherPhrases others) : phrases = others := by
  induction phrases generalizing others with
  | nil =>
    cases others with
    | nil => rfl
    | cons other others => cases hSame
  | cons phrase phrases ih =>
    cases others with
    | nil => cases hSame
    | cons other others =>
      rw [List.forall_mem_cons] at h hOthers
      have hTexts : phrase ++ furtherPhrases phrases = other ++ furtherPhrases others :=
        List.cons_injective (List.cons_injective hSame)
      obtain ⟨rfl, hRest⟩ := eq_of_append_furtherPhrases_eq h.1 hOthers.1 hTexts
      rw [ih h.2 hOthers.2 hRest]

/-- **Phrases.** Unbroken phrases can be told apart behind commas. -/
theorem eq_of_intercalate_eq (h : ∀ phrase ∈ phrases, Unbroken phrase)
    (hOthers : ∀ phrase ∈ others, Unbroken phrase) (hNe : phrases ≠ []) (hOthersNe : others ≠ [])
    (hSame : [',', ' '].intercalate phrases = [',', ' '].intercalate others) : phrases = others := by
  obtain ⟨phrase, phrases, rfl⟩ := List.exists_cons_of_ne_nil hNe
  obtain ⟨other, others, rfl⟩ := List.exists_cons_of_ne_nil hOthersNe
  rw [List.forall_mem_cons] at h hOthers
  rw [intercalate_cons_eq, intercalate_cons_eq] at hSame
  obtain ⟨rfl, hRest⟩ := eq_of_append_furtherPhrases_eq h.1 hOthers.1 hSame
  rw [eq_of_furtherPhrases_eq h.2 hOthers.2 hRest]

/-- The words of phrases are told by the phrases. -/
theorem eq_of_map_intercalate_eq {phrases others : List (List (List Char))}
    (h : ∀ phrase ∈ phrases, phrase ≠ [] ∧ ∀ piece ∈ phrase, IsPhraseWord piece)
    (hOthers : ∀ phrase ∈ others, phrase ≠ [] ∧ ∀ piece ∈ phrase, IsPhraseWord piece)
    (hSame : phrases.map ([' '].intercalate ·) = others.map ([' '].intercalate ·)) :
    phrases = others := by
  have hSplit : ∀ phrases : List (List (List Char)),
      (∀ phrase ∈ phrases, phrase ≠ [] ∧ ∀ piece ∈ phrase, IsPhraseWord piece) →
        (phrases.map ([' '].intercalate ·)).map (·.splitOn ' ') = phrases := by
    intro phrases h
    rw [List.map_map]
    refine (List.map_congr_left fun phrase hPhrase => ?_).trans (List.map_id phrases)
    exact List.splitOn_intercalate ' '
      (fun piece hPiece => ((h phrase hPhrase).2 piece hPiece).space_not_mem) (h phrase hPhrase).1
  rw [← hSplit phrases h, hSame, hSplit others hOthers]

end unbroken

end Crontab.Text
