import Crontab.Proofs.Schedule.Explicit
import Crontab.Proofs.Text.Phrases
import Crontab.Schedule.Upcoming
import Mathlib.Data.List.GetD

/-!
# Descriptions tell schedules apart

A description is a list of phrases, one for each word that restricts its field.  The phrases can be told
apart in the text, each of them tells its field and the values of the word, and none is mistaken for
the description of a well-known expression.

* `Field.phrase` — the words of the phrase for a word of a field;
* `Field.eq_of_phrase_eq`, `AreSpellings` — a phrase tells its field, and its word up to the spelling
  of a number;
* `forall_areSpellings_of_phrases_eq` — the phrases of a description tell the words of all fields;
* `IsDescribedBy` — a given expression and its description, all of whose names exist;
* `eq_of_description_eq` — expressions with the same description are the same schedule.
-/

namespace Crontab

open Text

/-! ## The phrase of a word -/

/-- The words of the phrase for a word of the minute or hour field. -/
def clockPhrase (unit : String) : List Char → List (List Char)
  | '*' :: '/' :: step => ["every".toList, step, (unit ++ "s").toList]
  | word => ["at".toList, unit.toList, word]

/-- The words of the phrase for a word of the month or weekday field. -/
def namedPhrase (preposition unit : String) (names : List String) (first : Nat)
    (word : List Char) : List (List Char) :=
  if isNumeral word then
    [preposition.toList, (names.getD (numeralValue word - first) "").toList]
  else [preposition.toList, unit.toList, word]

/-- The words of the phrase for a word of a field. -/
def Field.phrase : Field → List Char → List (List Char)
  | .minute => clockPhrase "minute"
  | .hour => clockPhrase "hour"
  | .dayOfMonth => fun word => ["on".toList, "day".toList, word]
  | .month => namedPhrase "in" "month" monthNames 1
  | .dayOfWeek => namedPhrase "on" "weekday" dayNames 0

/-- A number has a name in a table that starts with the name of another number. -/
def HasName (names : List String) (first n : Nat) : Prop :=
  first ≤ n ∧ n - first < names.length

/-- If a word of the field is a number and numbers are called by a name, it has one. -/
def Field.IsNamed : Field → List Char → Prop
  | .month, word => isNumeral word = true → HasName monthNames 1 (numeralValue word)
  | .dayOfWeek, word => isNumeral word = true → HasName dayNames 0 (numeralValue word)
  | _, _ => True

section phrases

variable {field other : Field} {word otherWord : List Char}

/-- The phrase for a word of the minute or hour field is that of its words. -/
theorem toList_describeClockWord (unit : String) (word : List Char) :
    (describeClockWord unit (String.ofList word)).toList =
      [' '].intercalate (clockPhrase unit word) := by
  unfold describeClockWord clockPhrase
  rw [String.toList_ofList]
  split
  · simp [List.intercalate_cons_cons]
  · simp [List.intercalate_cons_cons]

/-- The phrase for a word of any field is that of its words. -/
theorem toList_describeWord (field : Field) (word : List Char) :
    (field.describeWord (String.ofList word)).toList = [' '].intercalate (field.phrase word) := by
  cases field with
  | minute => exact toList_describeClockWord "minute" word
  | hour => exact toList_describeClockWord "hour" word
  | dayOfMonth => simp [Field.describeWord, Field.phrase, List.intercalate_cons_cons]
  | month =>
    simp only [Field.describeWord, Field.phrase, describeNamedWord, namedPhrase, String.toList_ofList]
    split <;> simp [List.intercalate_cons_cons]
  | dayOfWeek =>
    simp only [Field.describeWord, Field.phrase, describeNamedWord, namedPhrase, String.toList_ofList]
    split <;> simp [List.intercalate_cons_cons]

/-- The back of a word of a phrase is one itself. -/
theorem IsPhraseWord.of_append {front back : List Char} (h : IsPhraseWord (front ++ back)) :
    IsPhraseWord back where
  space_not_mem := fun hMem => h.space_not_mem (List.mem_append_right _ hMem)
  last := fun hLast => h.last (by
    rw [List.getLast?_append]
    rw [Option.mem_def.1 hLast]
    rfl)

/-- The names of months and days are words of phrases. -/
theorem isPhraseWord_of_mem_names {name : String} (h : name ∈ monthNames ++ dayNames) :
    IsPhraseWord name.toList := by
  have hNames : ∀ name ∈ monthNames ++ dayNames,
      ' ' ∉ name.toList ∧ ',' ∉ name.toList.getLast? := by decide
  exact ⟨(hNames name h).1, (hNames name h).2⟩

/-- The name of a number that has one is in the table. -/
theorem getD_of_hasName {names : List String} {first n : Nat} (h : HasName names first n) :
    names.getD (n - first) "" ∈ names := by
  rw [List.getD_eq_getElem _ _ h.2]
  exact List.getElem_mem h.2

/-- Phrases of the minute and hour fields are made of words of phrases. -/
theorem isPhraseWord_clockPhrase {unit : String} (hUnit : IsPhraseWord unit.toList)
    (hUnits : IsPhraseWord (unit ++ "s").toList) (hWord : IsPhraseWord word) :
    ∀ piece ∈ clockPhrase unit word, IsPhraseWord piece := by
  have hEvery : IsPhraseWord "every".toList := ⟨by decide, by decide⟩
  have hAt : IsPhraseWord "at".toList := ⟨by decide, by decide⟩
  unfold clockPhrase
  split
  · next step =>
    have hStep : IsPhraseWord step := @IsPhraseWord.of_append ['*', '/'] step hWord
    simp only [List.forall_mem_cons]
    exact ⟨hEvery, hStep, hUnits, List.forall_mem_nil _⟩
  · simp only [List.forall_mem_cons]
    exact ⟨hAt, hUnit, hWord, List.forall_mem_nil _⟩

/-- Phrases of the month and weekday fields are made of words of phrases. -/
theorem isPhraseWord_namedPhrase {preposition unit : String} {names : List String} {first : Nat}
    (hPreposition : IsPhraseWord preposition.toList) (hUnit : IsPhraseWord unit.toList)
    (hNames : ∀ name ∈ names, IsPhraseWord name.toList) (hWord : IsPhraseWord word)
    (hNamed : isNumeral word = true → HasName names first (numeralValue word)) :
    ∀ piece ∈ namedPhrase preposition unit names first word, IsPhraseWord piece := by
  unfold namedPhrase
  split
  · next hNumeral =>
    simp only [List.forall_mem_cons]
    exact ⟨hPreposition, hNames _ (getD_of_hasName (hNamed hNumeral)), List.forall_mem_nil _⟩
  · simp only [List.forall_mem_cons]
    exact ⟨hPreposition, hUnit, hWord, List.forall_mem_nil _⟩

/-- Phrases of all fields are made of words of phrases. -/
theorem isPhraseWord_phrase (hWord : IsPhraseWord word) (hNamed : field.IsNamed word) :
    ∀ piece ∈ field.phrase word, IsPhraseWord piece := by
  cases field with
  | minute => exact isPhraseWord_clockPhrase ⟨by decide, by decide⟩ ⟨by decide, by decide⟩ hWord
  | hour => exact isPhraseWord_clockPhrase ⟨by decide, by decide⟩ ⟨by decide, by decide⟩ hWord
  | dayOfMonth =>
    simp only [Field.phrase, List.forall_mem_cons]
    exact ⟨⟨by decide, by decide⟩, ⟨by decide, by decide⟩, hWord, List.forall_mem_nil _⟩
  | month =>
    exact isPhraseWord_namedPhrase ⟨by decide, by decide⟩ ⟨by decide, by decide⟩
      (fun name hName => isPhraseWord_of_mem_names (List.mem_append_left _ hName)) hWord hNamed
  | dayOfWeek =>
    exact isPhraseWord_namedPhrase ⟨by decide, by decide⟩ ⟨by decide, by decide⟩
      (fun name hName => isPhraseWord_of_mem_names (List.mem_append_right _ hName)) hWord hNamed

/-! ### What a phrase tells -/

/-- Two words are the same, or two spellings of the same number. -/
def AreSpellings (word other : List Char) : Prop :=
  word = other ∨ (isNumeral word = true ∧ isNumeral other = true ∧
    numeralValue word = numeralValue other)

/-- The words that the phrases of a field start with. -/
def Field.openings : Field → List String
  | .minute | .hour => ["every", "at"]
  | .dayOfMonth | .dayOfWeek => ["on"]
  | .month => ["in"]

/-- Phrases of the minute and hour fields start with `every` or `at`. -/
theorem head?_clockPhrase (unit : String) (word : List Char) :
    ∃ opening ∈ ["every", "at"], (clockPhrase unit word).head? = some opening.toList := by
  unfold clockPhrase
  split
  · exact ⟨"every", by simp, rfl⟩
  · exact ⟨"at", by simp, rfl⟩

/-- Phrases of the month and weekday fields start with their preposition. -/
theorem head?_namedPhrase (preposition unit : String) (names : List String) (first : Nat)
    (word : List Char) :
    (namedPhrase preposition unit names first word).head? = some preposition.toList := by
  unfold namedPhrase
  split <;> rfl

/-- Phrases start with one of the openings of their field. -/
theorem Field.head?_phrase (field : Field) (word : List Char) :
    ∃ opening ∈ field.openings, (field.phrase word).head? = some opening.toList := by
  cases field with
  | minute => exact head?_clockPhrase "minute" word
  | hour => exact head?_clockPhrase "hour" word
  | dayOfMonth => exact ⟨"on", by simp [Field.openings], rfl⟩
  | month => exact ⟨"in", by simp [Field.openings], head?_namedPhrase _ _ _ _ _⟩
  | dayOfWeek => exact ⟨"on", by simp [Field.openings], head?_namedPhrase _ _ _ _ _⟩

/-- The phrase of a time of day tells its unit and its word. -/
theorem eq_of_clockPhrase_eq {unit otherUnit : String}
    (h : clockPhrase unit word = clockPhrase otherUnit otherWord) :
    unit = otherUnit ∧ word = otherWord := by
  unfold clockPhrase at h
  split at h <;> split at h <;> simp only [List.cons.injEq, and_true, true_and, String.toList_inj] at h
  · obtain ⟨rfl, hUnit⟩ := h
    exact ⟨by simpa using hUnit, rfl⟩
  · exact absurd h.1 (by decide)
  · exact absurd h.1 (by decide)
  · exact h

/-- The number of a name is told by the name. -/
theorem eq_of_getD_eq {names : List String} (hNodup : names.Nodup) {first n m : Nat}
    (hn : HasName names first n) (hm : HasName names first m)
    (h : names.getD (n - first) "" = names.getD (m - first) "") : n = m := by
  rw [List.getD_eq_getElem _ _ hn.2, List.getD_eq_getElem _ _ hm.2, hNodup.getElem_inj_iff] at h
  have hFirst := hn.1
  have hOther := hm.1
  omega

/-- Words of the month or weekday field with one phrase are spellings of each other. -/
theorem areSpellings_of_namedPhrase_eq {preposition unit : String} {names : List String}
    {first : Nat} (hNodup : names.Nodup)
    (hNamed : isNumeral word = true → HasName names first (numeralValue word))
    (hOther : isNumeral otherWord = true → HasName names first (numeralValue otherWord))
    (h : namedPhrase preposition unit names first word =
      namedPhrase preposition unit names first otherWord) : AreSpellings word otherWord := by
  unfold namedPhrase at h
  split at h
  · next hNumeral =>
    split at h
    · next hOtherNumeral =>
      simp only [List.cons.injEq, and_true, true_and, String.toList_inj] at h
      exact .inr ⟨hNumeral, hOtherNumeral,
        eq_of_getD_eq hNodup (hNamed hNumeral) (hOther hOtherNumeral) h⟩
    · simp at h
  · split at h
    · simp at h
    · simp only [List.cons.injEq, and_true, true_and] at h
      exact .inl h

/-- The phrases of the two fields of days are told apart by their second words. -/
theorem phrase_dayOfWeek_ne (word otherWord : List Char) :
    Field.phrase .dayOfWeek word ≠ Field.phrase .dayOfMonth otherWord := by
  simp only [Field.phrase, namedPhrase]
  split <;> simp

/-- **What a phrase tells.** A phrase tells its field. -/
theorem Field.eq_of_phrase_eq (h : field.phrase word = other.phrase otherWord) : field = other := by
  obtain ⟨opening, hOpening, hHead⟩ := field.head?_phrase word
  obtain ⟨otherOpening, hOtherOpening, hOtherHead⟩ := other.head?_phrase otherWord
  rw [h, hOtherHead, Option.some.injEq, String.toList_inj] at hHead
  subst hHead
  have hShared : ¬ ∀ opening ∈ field.openings, opening ∉ other.openings :=
    fun hNone => hNone _ hOpening hOtherOpening
  cases field <;> cases other
  case minute.hour => exact absurd (eq_of_clockPhrase_eq h).1 (by decide)
  case hour.minute => exact absurd (eq_of_clockPhrase_eq h).1 (by decide)
  case dayOfMonth.dayOfWeek => exact absurd h.symm (phrase_dayOfWeek_ne _ _)
  case dayOfWeek.dayOfMonth => exact absurd h (phrase_dayOfWeek_ne _ _)
  all_goals first
    | rfl
    | exact absurd (by decide) hShared

/-- A phrase tells its word up to the spelling of a number. -/
theorem Field.areSpellings_of_phrase_eq (hNamed : field.IsNamed word)
    (hOther : field.IsNamed otherWord) (h : field.phrase word = field.phrase otherWord) :
    AreSpellings word otherWord := by
  cases field with
  | minute => exact .inl (eq_of_clockPhrase_eq h).2
  | hour => exact .inl (eq_of_clockPhrase_eq h).2
  | dayOfMonth =>
    simp only [Field.phrase, List.cons.injEq, and_true, true_and] at h
    exact .inl h
  | month => exact areSpellings_of_namedPhrase_eq (by decide) hNamed hOther h
  | dayOfWeek => exact areSpellings_of_namedPhrase_eq (by decide) hNamed hOther h

end phrases

/-! ## Words that were read -/

section words

variable {field : Field} {word other : List Char} {values otherValues : List Nat}

/-- An item that is a numeral is a number of its field. -/
theorem ItemText.of_isNumeral {item : Item} (h : ItemText field word item)
    (hNumeral : isNumeral word = true) :
    item = ⟨.single (numeralValue word), none⟩ ∧ NumberText field word (numeralValue word) := by
  cases h with
  | plain hSpan =>
    cases hSpan with
    | every => exact absurd hNumeral (by decide)
    | single hNumber =>
      obtain rfl := hNumber.value
      exact ⟨rfl, hNumber⟩
    | range => exact absurd (by simp) (not_mem_of_isNumeral hNumeral (c := '-') (by decide))
  | stepped => exact absurd (by simp) (not_mem_of_isNumeral hNumeral (c := '/') (by decide))

/-- What is read from a word are the values of its items. -/
theorem exists_items_of_parseWord (hSolid : Solid word) (h : field.parseWord word = .ok values) :
    ∃ items, List.Forall₂ (fun piece item => ItemText field (strip piece) item)
      (word.splitOn ',') items ∧ values = field.union items := by
  obtain ⟨items, hRead, hValues⟩ := map_eq_ok.1 (Field.parse_of_parseWord h)
  rw [read_eq_ok_iff, hSolid.strip_eq] at hRead
  exact ⟨items, hRead, hValues.symm⟩

/-- A word that is read has no item without text, so that it does not end with a comma. -/
theorem isPhraseWord_of_parseWord (hSolid : Solid word) (h : field.parseWord word = .ok values) :
    IsPhraseWord word where
  space_not_mem := fun hSpace => absurd (hSolid _ hSpace) (by decide)
  last := by
    intro hLast
    obtain ⟨front, rfl⟩ := List.getLast?_eq_some_iff.1 (Option.mem_def.1 hLast)
    obtain ⟨items, hItems, -⟩ := exists_items_of_parseWord hSolid h
    have hNil : [] ∈ (front ++ [',']).splitOn ',' := by
      rw [List.splitOn, List.splitOnP_append_cons front [] (by decide)]
      simp
    obtain ⟨item, -, hItem⟩ := exists_mem_right_of_forall₂ hItems hNil
    exact hItem.ne_nil rfl

/-- A numeral that is read is a number of its field, and its value is all that is read. -/
theorem numberText_of_parseWord (hNumeral : isNumeral word = true)
    (h : field.parseWord word = .ok values) :
    NumberText field word (numeralValue word) ∧
      values = field.union [⟨.single (numeralValue word), none⟩] := by
  have hSolid := solid_of_isNumeral hNumeral
  obtain ⟨items, hItems, rfl⟩ := exists_items_of_parseWord hSolid h
  rw [List.splitOn_eq_singleton (not_mem_of_isNumeral hNumeral (by decide)),
    List.forall₂_cons_left_iff] at hItems
  obtain ⟨item, rest, hItem, hRest, rfl⟩ := hItems
  cases hRest
  rw [hSolid.strip_eq] at hItem
  obtain ⟨rfl, hNumber⟩ := hItem.of_isNumeral hNumeral
  exact ⟨hNumber, rfl⟩

/-- The numbers of the fields that are called by a name have one. -/
theorem isNamed_of_parseWord (h : field.parseWord word = .ok values) : field.IsNamed word := by
  cases field with
  | minute | hour | dayOfMonth => trivial
  | month =>
    intro hNumeral
    obtain ⟨hNumber, -⟩ := numberText_of_parseWord hNumeral h
    exact ⟨hNumber.least_le, Nat.sub_lt_left_of_lt_add hNumber.least_le
      (Nat.lt_succ_of_le hNumber.le_greatest)⟩
  | dayOfWeek =>
    intro hNumeral
    obtain ⟨hNumber, -⟩ := numberText_of_parseWord hNumeral h
    exact ⟨Nat.zero_le _, Nat.lt_succ_of_le hNumber.le_greatest⟩

/-- Spellings of the same number are read alike. -/
theorem eq_of_areSpellings (hSpellings : AreSpellings word other)
    (h : field.parseWord word = .ok values) (hOther : field.parseWord other = .ok otherValues) :
    values = otherValues := by
  rcases hSpellings with rfl | ⟨hNumeral, hOtherNumeral, hValue⟩
  · rw [h] at hOther
    exact Except.ok.inj hOther
  · rw [(numberText_of_parseWord hNumeral h).2, (numberText_of_parseWord hOtherNumeral hOther).2, hValue]

end words

/-! ## The phrases of a description -/

/-- The phrases of the words that restrict their field. -/
def phrases (fields : List Field) (fieldWords : List (List Char)) : List (List (List Char)) :=
  ((fields.zip fieldWords).filter (·.2 ≠ ['*'])).map fun (field, word) => field.phrase word

section lists

variable {field : Field} {word : List Char} {fields : List Field} {fieldWords others : List (List Char)}

/-- A star adds no phrase. -/
theorem phrases_cons_star :
    phrases (field :: fields) (['*'] :: fieldWords) = phrases fields fieldWords := by
  simp [phrases]

/-- Any word but a star adds its phrase in front. -/
theorem phrases_cons_of_ne (h : word ≠ ['*']) :
    phrases (field :: fields) (word :: fieldWords) =
      field.phrase word :: phrases fields fieldWords := by
  simp [phrases, h]

/-- The phrase of a field is not among those of other fields. -/
theorem phrase_not_mem (hField : field ∉ fields) : field.phrase word ∉ phrases fields fieldWords := by
  intro hMem
  obtain ⟨⟨other, otherWord⟩, hPart, hSame⟩ := List.mem_map.1 hMem
  obtain rfl := Field.eq_of_phrase_eq hSame
  exact hField (List.of_mem_zip (List.mem_filter.1 hPart).1).1

/-- Words without phrases are stars. -/
theorem eq_replicate_of_phrases_eq_nil (hLength : fieldWords.length = fields.length)
    (h : phrases fields fieldWords = []) : fieldWords = List.replicate fields.length ['*'] := by
  induction fields generalizing fieldWords with
  | nil => exact List.length_eq_zero_iff.1 hLength
  | cons field fields ih =>
    obtain ⟨word, rest, rfl⟩ := List.exists_cons_of_length_eq_add_one hLength
    by_cases hStar : word = ['*']
    · subst hStar
      rw [phrases_cons_star] at h
      rw [List.length_cons, List.replicate_succ, ← ih (Nat.succ.inj hLength) h]
    · rw [phrases_cons_of_ne hStar] at h
      cases h

/-- **The phrases of a description.** Phrases tell the words of all fields, those that are left out
included, up to the spelling of numbers. -/
theorem forall_areSpellings_of_phrases_eq (hNodup : fields.Nodup)
    (h : List.Forall₂ Field.IsNamed fields fieldWords)
    (hOthers : List.Forall₂ Field.IsNamed fields others)
    (hSame : phrases fields fieldWords = phrases fields others) :
    List.Forall₂ AreSpellings fieldWords others := by
  induction h generalizing others with
  | nil =>
    cases hOthers
    exact .nil
  | @cons field word fields rest hWord _ ih =>
    obtain ⟨other, otherRest, hOther, hOtherRest, rfl⟩ := List.forall₂_cons_left_iff.1 hOthers
    obtain ⟨hField, hNodup⟩ := List.nodup_cons.1 hNodup
    by_cases hStar : word = ['*'] <;> by_cases hOtherStar : other = ['*']
    · subst hStar hOtherStar
      rw [phrases_cons_star, phrases_cons_star] at hSame
      exact .cons (.inl rfl) (ih hNodup hOtherRest hSame)
    -- a phrase on one side only is not matched by those of later fields
    · subst hStar
      rw [phrases_cons_star, phrases_cons_of_ne hOtherStar] at hSame
      exact absurd (hSame ▸ List.mem_cons_self) (phrase_not_mem hField)
    · subst hOtherStar
      rw [phrases_cons_star, phrases_cons_of_ne hStar] at hSame
      exact absurd (hSame ▸ List.mem_cons_self) (phrase_not_mem hField)
    · rw [phrases_cons_of_ne hStar, phrases_cons_of_ne hOtherStar, List.cons_eq_cons] at hSame
      exact .cons (Field.areSpellings_of_phrase_eq hWord hOther hSame.1) (ih hNodup hOtherRest hSame.2)

/-- Words that are spellings of each other stand for the same values, field by field. -/
theorem valuesOf_eq_of_areSpellings {schedule otherSchedule : Schedule}
    (h : List.Forall₂ (fun field word => field.parseWord word = .ok (schedule.valuesOf field))
      fields fieldWords)
    (hOthers : List.Forall₂
      (fun field word => field.parseWord word = .ok (otherSchedule.valuesOf field)) fields others)
    (hSpellings : List.Forall₂ AreSpellings fieldWords others) :
    ∀ field ∈ fields, schedule.valuesOf field = otherSchedule.valuesOf field := by
  induction hSpellings generalizing fields with
  | nil =>
    cases h
    exact List.forall_mem_nil _
  | cons hWord _ ih =>
    obtain ⟨field, rest, hField, hRest, rfl⟩ := List.forall₂_cons_right_iff.1 h
    obtain ⟨hOtherField, hOtherRest⟩ := List.forall₂_cons.1 hOthers
    exact List.forall_mem_cons.2 ⟨eq_of_areSpellings hWord hField hOtherField, ih hRest hOtherRest⟩

/-- Every piece of a phrase of words that were read is a word of a phrase. -/
theorem isPhraseWord_of_mem_phrases (hWords : ∀ word ∈ fieldWords, IsPhraseWord word)
    (h : List.Forall₂ Field.IsNamed fields fieldWords) :
    ∀ phrase ∈ phrases fields fieldWords, phrase ≠ [] ∧ ∀ piece ∈ phrase, IsPhraseWord piece := by
  intro phrase hPhrase
  obtain ⟨⟨field, word⟩, hPart, rfl⟩ := List.mem_map.1 hPhrase
  have hZip := (List.mem_filter.1 hPart).1
  have hNamed : field.IsNamed word := (List.forall₂_iff_zip.1 h).2 hZip
  obtain ⟨opening, -, hHead⟩ := field.head?_phrase word
  refine ⟨fun hNil : field.phrase word = [] => ?_,
    isPhraseWord_phrase (hWords word (List.of_mem_zip hZip).2) hNamed⟩
  rw [hNil] at hHead
  cases hHead

end lists

/-! ## Expressions -/

/-- A list of phrases as a description has it. -/
def listed (phrases : List (List (List Char))) : List Char :=
  [',', ' '].intercalate (phrases.map ([' '].intercalate ·))

section expressions

variable {expression other : String} {schedule otherSchedule : Schedule}

/-- The parts that a description lists are the phrases of the words. -/
theorem map_toList_describeWord (fields : List Field) (fieldWords : List (List Char)) :
    (((fields.zip (fieldWords.map String.ofList)).filter (·.2 ≠ "*")).map
      fun part => part.1.describeWord part.2).map String.toList =
        (phrases fields fieldWords).map ([' '].intercalate ·) := by
  have hStar : ∀ word : List Char, String.ofList word = "*" ↔ word = ['*'] := fun word => by
    rw [← String.toList_inj, String.toList_ofList]
    rfl
  rw [List.zip_map_right, List.filter_map, phrases, List.map_map, List.map_map, List.map_map]
  simp only [Function.comp_def, Prod.map_fst, Prod.map_snd, id_eq, toList_describeWord, hStar, ne_eq]

/-- The description of words lists their phrases, if there are any. -/
theorem toList_describeWords (fieldWords : List (List Char)) (h : phrases Field.all fieldWords ≠ []) :
    (describeWords (fieldWords.map String.ofList)).toList =
      "Runs ".toList ++ listed (phrases Field.all fieldWords) := by
  have hParts := map_toList_describeWord Field.all fieldWords
  unfold describeWords
  simp only
  rw [if_neg, String.toList_append, String.toList_intercalate, listed, ← hParts]
  · rfl
  · rw [List.isEmpty_iff]
    intro hNil
    rw [hNil, List.map_nil] at hParts
    exact h (List.map_eq_nil_iff.1 hParts.symm)

/-- Normalizing an expression leaves its words as they are. -/
theorem words_normalize (expression : String) :
    words (normalize expression).toList = words expression.toList := by
  rw [normalize, String.toList_ofList]
  refine words_intercalate fun word hWord => ⟨solid_of_mem_words hWord, ?_⟩
  rintro rfl
  simpa using (List.mem_filter.1 hWord).2

/-- A normalized expression is read as the same schedule. -/
theorem parse_normalize (expression : String) :
    Schedule.parse (normalize expression) = Schedule.parse expression := by
  rw [Schedule.parse, Schedule.parse, Schedule.parseChars, Schedule.parseChars, words_normalize]

/-- The words of an expression that is read, field by field. -/
theorem forall_parseWord_of_parse (h : Schedule.parse expression = .ok schedule) :
    List.Forall₂ (fun field word => field.parseWord word = .ok (schedule.valuesOf field)) Field.all
      (words expression.toList) := by
  have hRead := Schedule.parseChars_eq_ok_iff.1 h
  simpa only [Schedule.IsReadFrom, ← parseWord_eq_ok_iff] using hRead

/-- In an expression that is read all numbers called by a name have one. -/
theorem forall_isNamed_of_parse (h : Schedule.parse expression = .ok schedule) :
    List.Forall₂ Field.IsNamed Field.all (words expression.toList) :=
  (forall_parseWord_of_parse h).imp fun _ _ hWord => isNamed_of_parseWord hWord

/-- The words of an expression that is read are words of phrases. -/
theorem isPhraseWord_of_parse (h : Schedule.parse expression = .ok schedule) {word : List Char}
    (hWord : word ∈ words expression.toList) : IsPhraseWord word := by
  obtain ⟨field, -, hParse⟩ := exists_mem_left_of_forall₂ (forall_parseWord_of_parse h) hWord
  exact isPhraseWord_of_parseWord (solid_of_mem_words hWord) hParse

/-- Expressions whose words are spellings of each other are the same schedule. -/
theorem eq_of_forall_areSpellings (h : Schedule.parse expression = .ok schedule)
    (hOther : Schedule.parse other = .ok otherSchedule)
    (hSpellings : List.Forall₂ AreSpellings (words expression.toList) (words other.toList)) :
    schedule = otherSchedule := by
  refine Schedule.ext_valuesOf fun field => ?_
  refine valuesOf_eq_of_areSpellings (forall_parseWord_of_parse h) (forall_parseWord_of_parse hOther)
    hSpellings field ?_
  cases field <;> decide

/-- An expression that is read is described as the well-known one that it is, or by its phrases, of
which there is one at least. -/
theorem describe_cases (h : Schedule.parse expression = .ok schedule) :
    (∃ preset ∈ presets, preset.expression = normalize expression ∧
      describe expression = .ok preset.description) ∨
    (phrases Field.all (words expression.toList) ≠ [] ∧ ∃ text, describe expression = .ok text ∧
      text.toList = "Runs ".toList ++ listed (phrases Field.all (words expression.toList))) := by
  unfold describe
  simp only
  split
  · next preset hFind =>
    exact .inl ⟨preset, List.mem_of_find?_eq_some hFind, by simpa using List.find?_some hFind, rfl⟩
  · next hFind =>
    have hPhrases : phrases Field.all (words expression.toList) ≠ [] := by
      intro hNil
      have hStars := eq_replicate_of_phrases_eq_nil (forall_parseWord_of_parse h).length_eq.symm hNil
      have hEvery : normalize expression = "* * * * *" := by
        rw [normalize, hStars]
        decide
      rw [hEvery] at hFind
      exact absurd hFind (by decide)
    rw [parse_normalize, h, words_normalize]
    exact .inr ⟨hPhrases, _, rfl, toList_describeWords _ hPhrases⟩

/-- Lists of phrases of expressions that are read are told apart. -/
theorem phrases_eq_of_listed_eq (h : Schedule.parse expression = .ok schedule)
    (hOther : Schedule.parse other = .ok otherSchedule)
    (hNe : phrases Field.all (words expression.toList) ≠ [])
    (hOtherNe : phrases Field.all (words other.toList) ≠ [])
    (hSame : listed (phrases Field.all (words expression.toList)) =
      listed (phrases Field.all (words other.toList))) :
    phrases Field.all (words expression.toList) = phrases Field.all (words other.toList) := by
  have hWords : ∀ {expression schedule}, Schedule.parse expression = .ok schedule →
      ∀ phrase ∈ phrases Field.all (words expression.toList),
        phrase ≠ [] ∧ ∀ piece ∈ phrase, IsPhraseWord piece := fun hRead =>
    isPhraseWord_of_mem_phrases (fun _ => isPhraseWord_of_parse hRead) (forall_isNamed_of_parse hRead)
  have hUnbroken : ∀ {expression schedule}, Schedule.parse expression = .ok schedule →
      ∀ phrase ∈ (phrases Field.all (words expression.toList)).map ([' '].intercalate ·),
        Unbroken phrase := by
    intro expression schedule hRead phrase hPhrase
    obtain ⟨pieces, hPieces, rfl⟩ := List.mem_map.1 hPhrase
    exact unbroken_intercalate (hWords hRead pieces hPieces).2
  refine eq_of_map_intercalate_eq (hWords h) (hWords hOther) ?_
  exact eq_of_intercalate_eq (hUnbroken h) (hUnbroken hOther) (by simpa using hNe)
    (by simpa using hOtherNe) hSame

/-- A description by phrases is not the description of a well-known expression. -/
theorem preset_description_ne {preset : Preset} (hPreset : preset ∈ presets) {text : String}
    {phrases : List Char} (hText : text.toList = "Runs ".toList ++ phrases) :
    preset.description ≠ text := by
  rintro rfl
  have hHead : ∀ preset ∈ presets, preset.description.toList.head? ≠ some 'R' := by decide
  exact hHead preset hPreset (by rw [hText]; rfl)

/-- Expressions with the same description are the same schedule. -/
theorem eq_of_describe_eq (h : Schedule.parse expression = .ok schedule)
    (hOther : Schedule.parse other = .ok otherSchedule) (hSame : describe expression = describe other) :
    schedule = otherSchedule := by
  rcases describe_cases h with ⟨preset, hPreset, hName, hText⟩ | ⟨hNe, text, hText, hList⟩ <;>
    rcases describe_cases hOther with
      ⟨otherPreset, hOtherPreset, hOtherName, hOtherText⟩ | ⟨hOtherNe, otherText, hOtherText, hOtherList⟩ <;>
    rw [hText, hOtherText, Except.ok.injEq] at hSame
  · have hPresets : ∀ preset ∈ presets, ∀ other ∈ presets,
        preset.description = other.description → preset = other := by decide
    obtain rfl := hPresets preset hPreset otherPreset hOtherPreset hSame
    rw [← parse_normalize, ← hName, hOtherName, parse_normalize, hOther] at h
    exact (Except.ok.inj h).symm
  · exact absurd hSame (preset_description_ne hPreset hOtherList)
  · exact absurd hSame.symm (preset_description_ne hOtherPreset hList)
  -- a list of phrases tells the words of every field, but for spellings of one number
  · rw [← String.toList_inj, hList, hOtherList, List.append_cancel_left_eq] at hSame
    refine eq_of_forall_areSpellings h hOther ?_
    refine forall_areSpellings_of_phrases_eq (by decide) (forall_isNamed_of_parse h)
      (forall_isNamed_of_parse hOther) ?_
    exact phrases_eq_of_listed_eq h hOther hNe hOtherNe hSame

end expressions

/-! ## Given expressions -/

/-- A given expression is described by a text: the text is what is shown for it, it is the description
of the expression and not the expression itself, and every number in it that is called by a name has
one. -/
structure IsDescribedBy (given : Value) (text : String) : Prop where
  shown : describeValue given = .text text
  described : ∃ expression, given.text? = some expression ∧ describe expression = .ok text ∧
    List.Forall₂ Field.IsNamed Field.all (words expression.toList)

/-- An expression that is read has a description. -/
theorem exists_isDescribedBy {given : Value} {schedule : Schedule}
    (h : Schedule.ofValue given = .ok schedule) :
    ∃ expression text, given.text? = some expression ∧ Schedule.parse expression = .ok schedule ∧
      describe expression = .ok text ∧ IsDescribedBy given text := by
  unfold Schedule.ofValue at h
  split at h
  · next expression hText =>
    obtain ⟨text, hDescribed⟩ : ∃ text, describe expression = .ok text := by
      rcases describe_cases h with ⟨preset, -, -, hDescribed⟩ | ⟨-, text, hDescribed, -⟩
      · exact ⟨_, hDescribed⟩
      · exact ⟨text, hDescribed⟩
    refine ⟨expression, text, hText, h, hDescribed, ?_, expression, hText, hDescribed,
      forall_isNamed_of_parse h⟩
    unfold describeValue
    rw [hText, Option.map_some, hDescribed]
  · cases h

/-- **Descriptions.** Every given expression that is read has a description, in which every number that is
called by a name has one.  Two of them with the same description stand for the same values of every
field, whether their descriptions are fixed ones or lists of phrases. -/
theorem eq_of_description_eq {given other : Value} {schedule otherSchedule : Schedule}
    (h : Schedule.ofValue given = .ok schedule) (hOther : Schedule.ofValue other = .ok otherSchedule) :
    ∃ text otherText, IsDescribedBy given text ∧ IsDescribedBy other otherText ∧
      (text = otherText → schedule = otherSchedule) := by
  obtain ⟨expression, text, -, hRead, hText, hDescribed⟩ := exists_isDescribedBy h
  obtain ⟨otherExpression, otherText, -, hOtherRead, hOtherText, hOtherDescribed⟩ :=
    exists_isDescribedBy hOther
  refine ⟨text, otherText, hDescribed, hOtherDescribed, fun hSame => ?_⟩
  refine eq_of_describe_eq hRead hOtherRead ?_
  rw [hText, hOtherText, hSame]

/-- Six in the morning on the first day of every month. -/
def firstDays : Schedule where
  minute := [0]
  hour := [6]
  dayOfMonth := [1]
  month := List.range' 1 12
  dayOfWeek := List.range' 0 7

/-- Six in the morning on Mondays. -/
def mondays : Schedule where
  minute := [0]
  hour := [6]
  dayOfMonth := List.range' 1 31
  month := List.range' 1 12
  dayOfWeek := [1]

/-- A number is described differently in the two fields of days. -/
theorem eq_of_description_eq_firstDays :
    Schedule.ofValue (.text "00 06 01 * *") = .ok firstDays ∧
      Schedule.ofValue (.text "00 06 * * 01") = .ok mondays ∧
      ∃ text otherText, IsDescribedBy (.text "00 06 01 * *") text ∧
        IsDescribedBy (.text "00 06 * * 01") otherText ∧ text ≠ otherText := by
  have h : Schedule.ofValue (.text "00 06 01 * *") = .ok firstDays := by decide +kernel
  have hOther : Schedule.ofValue (.text "00 06 * * 01") = .ok mondays := by decide +kernel
  obtain ⟨text, otherText, hText, hOtherText, hSame⟩ := eq_of_description_eq h hOther
  exact ⟨h, hOther, text, otherText, hText, hOtherText, fun hEq => absurd (hSame hEq) (by decide)⟩

example : describe "*/10,20 06,12 * 01 0" =
    .ok "Runs every 10,20 minutes, at hour 06,12, in Jan, on Sunday" := by decide +kernel

end Crontab
