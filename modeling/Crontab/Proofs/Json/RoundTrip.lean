import Crontab.Proofs.Data.Fields
import Crontab.Proofs.Json.Numbers
import Crontab.Proofs.Json.Texts

/-!
# Reading values of JSON texts back

Every value whose integers can be read and whose objects name each field once is read back from its
written form.

* `Json.IsRegular` — the values that are read back;
* `isReadable` — a value in front of another text;
* `read_write` — the value of a whole text.
-/

namespace Crontab

namespace Json

open Text Number

/-! ## Regular values -/

mutual

/-- Every integer can be read, and every object names each field once. -/
def IsRegular : Json → Prop
  | .int n => (numeral n.natAbs).length ≤ digitLimit
  | .list items => AreRegular items
  | .object fields => (Fields.names fields).Nodup ∧ HasRegularFields fields
  | _ => True

/-- All of some values are regular. -/
def AreRegular : List Json → Prop
  | [] => True
  | item :: items => item.IsRegular ∧ AreRegular items

/-- The values of all fields are regular. -/
def HasRegularFields : List (String × Json) → Prop
  | [] => True
  | (_, value) :: fields => value.IsRegular ∧ HasRegularFields fields

end

/-- All of some values are regular exactly if each of them is. -/
theorem areRegular_iff {items : List Json} :
    AreRegular items ↔ ∀ item ∈ items, item.IsRegular := by
  induction items with
  | nil => exact iff_of_true trivial (List.forall_mem_nil _)
  | cons item items ih =>
    rw [List.forall_mem_cons, ← ih]
    exact Iff.rfl

/-- All fields are regular exactly if each of their values is. -/
theorem hasRegularFields_iff {fields : List (String × Json)} :
    HasRegularFields fields ↔ ∀ field ∈ fields, field.2.IsRegular := by
  induction fields with
  | nil => exact iff_of_true trivial (List.forall_mem_nil _)
  | cons field fields ih =>
    rw [List.forall_mem_cons, ← ih]
    exact Iff.rfl

mutual

/-- A regular value has a written form. -/
theorem isWritable_of_isRegular : (json : Json) → json.IsRegular → json.isWritable = true
  | .null, _ => rfl
  | .bool _, _ => rfl
  | .int _, h => decide_eq_true h
  | .float _, _ => rfl
  | .text _, _ => rfl
  | .list items, h => areWritable_of_areRegular items h
  | .object fields, h => haveWritableValues_of_hasRegularFields fields h.2

/-- Regular items have a written form. -/
theorem areWritable_of_areRegular : (items : List Json) → AreRegular items →
    areWritable items = true
  | [], _ => rfl
  | item :: items, h => by
    rw [areWritable, isWritable_of_isRegular item h.1, areWritable_of_areRegular items h.2]
    rfl

/-- The values of regular fields have a written form. -/
theorem haveWritableValues_of_hasRegularFields : (fields : List (String × Json)) →
    HasRegularFields fields → haveWritableValues fields = true
  | [], _ => rfl
  | (_, value) :: fields, h => by
    rw [haveWritableValues, isWritable_of_isRegular value h.1,
      haveWritableValues_of_hasRegularFields fields h.2]
    rfl

end

/-! ## The start of a written value -/

/-- Whether a name or a number may start with a character. -/
def startsAtom (c : Char) : Bool :=
  c.isDigit || ['-', 'n', 't', 'f', 'N', 'I'].contains c

/-- Whether a value may start with a character. -/
def startsValue (c : Char) : Bool :=
  startsAtom c || [doubleQuote, '[', '\x7b'].contains c

/-- The characters that end a value or stand between its parts start none. -/
theorem ne_of_startsValue {c d : Char} (h : startsValue c = true) (hd : startsValue d = false) :
    c ≠ d := by
  rintro rfl
  rw [h] at hd
  cases hd

/-- There is no space to skip in front of a value. -/
theorem skipSpace_of_startsValue {c : Char} (h : startsValue c = true) (rest : List Char) :
    skipSpace (c :: rest) = c :: rest := by
  have hSpace := ne_of_startsValue h (d := ' ') rfl
  have hTab := ne_of_startsValue h (d := '\t') rfl
  have hLine := ne_of_startsValue h (d := '\n') rfl
  have hReturn := ne_of_startsValue h (d := '\r') rfl
  rw [skipSpace, List.dropWhile_cons_of_neg]
  simp [hSpace, hTab, hLine, hReturn]

/-- A space is skipped. -/
theorem skipSpace_space (rest : List Char) : skipSpace (' ' :: rest) = skipSpace rest := by
  rw [skipSpace, List.dropWhile_cons_of_pos (by decide)]
  rfl

/-- An integer starts as a number may. -/
theorem signedNumeral_start (n : Int) :
    ∃ c rest, signedNumeral n = c :: rest ∧ startsAtom c = true := by
  unfold signedNumeral
  split
  · exact ⟨'-', _, rfl, rfl⟩
  · obtain ⟨c, rest, hCons⟩ := List.exists_cons_of_ne_nil
      (ne_nil_of_isNumeral (isNumeral_numeral n.natAbs))
    have hDigit : c.isDigit = true :=
      isDigit_of_mem_numeral (n := n.natAbs) (by rw [hCons]; exact List.mem_cons_self)
    exact ⟨c, rest, hCons, by rw [startsAtom, hDigit, Bool.true_or]⟩

/-- A floating point number starts as a name or a number may. -/
theorem writeFloat_start (x : Binary64) :
    ∃ c rest, writeFloat x = c :: rest ∧ startsAtom c = true := by
  cases x with
  | nan => exact ⟨'N', _, rfl, rfl⟩
  | infinity negative =>
    cases negative with
    | false => exact ⟨'I', _, rfl, rfl⟩
    | true => exact ⟨'-', _, rfl, rfl⟩
  | finite negative exponent fraction =>
    cases negative with
    | true => exact ⟨'-', _, rfl, rfl⟩
    | false =>
      obtain ⟨form, hMarked, hChars, -⟩ := exists_form exponent fraction
      obtain ⟨hNe, hDigit⟩ := DecimalForm.head?_chars hMarked
      obtain ⟨c, rest, hCons⟩ := List.exists_cons_of_ne_nil hNe
      refine ⟨c, rest, ?_, ?_⟩
      · rw [← hCons, hChars]
        rfl
      · rw [startsAtom, hDigit c (by rw [hCons]; rfl), Bool.true_or]

/-- Every written value starts with a character that starts a value. -/
theorem write_start (json : Json) : ∃ c rest, write json = c :: rest ∧ startsValue c = true := by
  have hAtom : ∀ {text : List Char}, (∃ c rest, text = c :: rest ∧ startsAtom c = true) →
      ∃ c rest, text = c :: rest ∧ startsValue c = true := by
    rintro text ⟨c, rest, hText, hStart⟩
    exact ⟨c, rest, hText, by rw [startsValue, hStart, Bool.true_or]⟩
  match json with
  | .null => exact ⟨'n', _, rfl, rfl⟩
  | .bool true => exact ⟨'t', _, rfl, rfl⟩
  | .bool false => exact ⟨'f', _, rfl, rfl⟩
  | .int n => exact hAtom (signedNumeral_start n)
  | .float x => exact hAtom (writeFloat_start x)
  | .text s => exact ⟨doubleQuote, _, rfl, rfl⟩
  | .list [] => exact ⟨'[', _, rfl, rfl⟩
  | .list (_ :: _) => exact ⟨'[', _, rfl, rfl⟩
  | .object [] => exact ⟨'\x7b', _, rfl, rfl⟩
  | .object ((_, _) :: _) => exact ⟨'\x7b', _, rfl, rfl⟩

/-- There is no space to skip in front of a written value. -/
theorem skipSpace_write (json : Json) (rest : List Char) :
    skipSpace (write json ++ rest) = write json ++ rest := by
  obtain ⟨c, tail, hWrite, hStart⟩ := write_start json
  rw [hWrite, List.cons_append, skipSpace_of_startsValue hStart]

/-- No written value is empty. -/
theorem exists_eq_succ {json : Json} {bound : Nat} (h : (write json).length ≤ bound) :
    ∃ less, bound = less + 1 := by
  obtain ⟨c, tail, hWrite, -⟩ := write_start json
  rw [hWrite, List.length_cons] at h
  exact ⟨bound - 1, by omega⟩

/-! ## Values in front of a text -/

section values

variable {bound : Nat} {rest : List Char}

/-- What starts like a name or a number is read as one. -/
theorem readValue_atom {text : List Char}
    (h : ∃ c tail, text = c :: tail ∧ startsAtom c = true) (bound : Nat) (rest : List Char) :
    readValue (bound + 1) (text ++ rest) = readAtom (text ++ rest) := by
  obtain ⟨c, tail, rfl, hStart⟩ := h
  have hNe : ∀ d : Char, startsAtom d = false → c ≠ d := by
    rintro d hd rfl
    rw [hStart] at hd
    cases hd
  rw [List.cons_append, readValue]
  · rintro _ hCons
    exact hNe '"' rfl (List.cons.inj hCons).1
  · rintro _ hCons
    exact hNe '[' rfl (List.cons.inj hCons).1
  · rintro _ hCons
    exact hNe '\x7b' rfl (List.cons.inj hCons).1

/-- A text after its opening quote is read up to its closing quote. -/
theorem readText_writeText (text : String) (rest : List Char) :
    ∃ tail, writeText text ++ rest = '"' :: tail ∧ readText tail = .ok (text, rest) := by
  refine ⟨text.toList.flatMap escape ++ doubleQuote :: rest, ?_, readText_escaped text rest⟩
  rw [writeText, List.cons_append, List.cons_append, List.append_assoc]
  rfl

/-- A list is written as its first item, its further items and its closing bracket. -/
theorem write_list_append (item : Json) (items : List Json) (rest : List Char) :
    write (.list (item :: items)) ++ rest =
      '[' :: (write item ++ (writeItems items ++ ']' :: rest)) := by
  simp [write]

/-- An object is written as its first field, its further fields and its closing brace. -/
theorem write_object_append (name : String) (value : Json) (fields : List (String × Json))
    (rest : List Char) :
    write (.object ((name, value) :: fields)) ++ rest =
      '\x7b' :: (writeText name ++ ':' :: ' ' :: (write value ++
        (writeFields fields ++ '\x7d' :: rest))) := by
  simp [write]

/-- A further item is written after a comma and a space. -/
theorem writeItems_cons_append (item : Json) (items : List Json) (rest : List Char) :
    writeItems (item :: items) ++ rest = ',' :: ' ' :: (write item ++ (writeItems items ++ rest)) := by
  simp [writeItems]

/-- A further field is written after a comma and a space. -/
theorem writeFields_cons_append (name : String) (value : Json) (fields : List (String × Json))
    (rest : List Char) :
    writeFields ((name, value) :: fields) ++ rest =
      ',' :: ' ' :: (writeText name ++ ':' :: ' ' :: (write value ++ (writeFields fields ++ rest))) := by
  simp [writeFields]

/-- What is written behind an item ends a number. -/
theorem delimited_writeItems (items : List Json) (rest : List Char) :
    Delimited (writeItems items ++ ']' :: rest) := by
  cases items <;> (rintro c ⟨⟩; decide)

/-- What is written behind a field ends a number. -/
theorem delimited_writeFields (fields : List (String × Json)) (rest : List Char) :
    Delimited (writeFields fields ++ '\x7d' :: rest) := by
  cases fields <;> (rintro c ⟨⟩; decide)

/-- A list that is not empty is read item by item. -/
theorem readValue_list {c : Char} (h : startsValue c = true) (text : List Char) :
    readValue (bound + 1) ('[' :: c :: text) =
      (readItems bound [] (c :: text)).map fun (items, rest) => (.list items, rest) := by
  rw [readValue, skipSpace_of_startsValue h]
  split
  · next hEnd => exact absurd (List.cons.inj hEnd).1 (ne_of_startsValue h rfl)
  · rfl

/-- An object that is not empty is read field by field. -/
theorem readValue_object (text : List Char) :
    readValue (bound + 1) ('\x7b' :: '"' :: text) =
      (readFields bound [] ('"' :: text)).map fun (fields, rest) =>
        (.object (Fields.ofPairs fields), rest) := rfl

section items

variable {text : List Char} {item : Json} {front : List Json}

/-- An item in front of the closing bracket is the last one. -/
theorem readItems_last (h : readValue bound text = .ok (item, ']' :: rest)) :
    readItems (bound + 1) front text = .ok ((item :: front).reverse, rest) := by
  rw [readItems, h]
  rfl

/-- An item in front of a comma is followed by further ones. -/
theorem readItems_more (h : readValue bound text = .ok (item, ',' :: rest)) :
    readItems (bound + 1) front text = readItems bound (item :: front) (skipSpace rest) := by
  rw [readItems, h]
  rfl

end items

section fields

variable {text : List Char} {name : String} {value : Json} {front : List (String × Json)}

/-- A field is read up to its end, and then what follows it. -/
theorem readFields_writeText (hValue : readValue bound (skipSpace text) = .ok (value, rest)) :
    readFields (bound + 1) front (writeText name ++ ':' :: text) =
      match skipSpace rest with
      | ',' :: rest => readFields bound ((name, value) :: front) (skipSpace rest)
      | '\x7d' :: rest => .ok (((name, value) :: front).reverse, rest)
      | _ => .error .malformed := by
  obtain ⟨tail, hText, hRead⟩ := readText_writeText name (':' :: text)
  rw [hText, readFields, hRead]
  simp only
  rw [skipSpace, List.dropWhile_cons_of_neg (by decide)]
  simp only
  generalize readValue bound (skipSpace text) = reading at hValue ⊢
  subst hValue
  rfl

/-- A field in front of the closing brace is the last one. -/
theorem readFields_last
    (hValue : readValue bound (skipSpace text) = .ok (value, '\x7d' :: rest)) :
    readFields (bound + 1) front (writeText name ++ ':' :: text) =
      .ok (((name, value) :: front).reverse, rest) := by
  rw [readFields_writeText hValue]
  rfl

/-- A field in front of a comma is followed by further ones. -/
theorem readFields_more
    (hValue : readValue bound (skipSpace text) = .ok (value, ',' :: rest)) :
    readFields (bound + 1) front (writeText name ++ ':' :: text) =
      readFields bound ((name, value) :: front) (skipSpace rest) := by
  rw [readFields_writeText hValue]
  rfl

end fields

end values

/-- A value is read back from its written form, whatever follows it. -/
def IsReadable (json : Json) : Prop :=
  ∀ (bound : Nat) (rest : List Char), Delimited rest → (write json).length ≤ bound →
    readValue bound (write json ++ rest) = .ok (json, rest)

/-- The items of a list are read back up to its end. -/
theorem readItems_write {item : Json} {items : List Json} (h : ∀ json ∈ item :: items, IsReadable json)
    (bound : Nat) (front : List Json) (rest : List Char)
    (hBound : (write item ++ writeItems items).length < bound) :
    readItems bound front (write item ++ (writeItems items ++ ']' :: rest)) =
      .ok (front.reverse ++ item :: items, rest) := by
  induction items generalizing item bound front with
  | nil =>
    obtain ⟨bound, rfl⟩ := Nat.exists_eq_succ_of_ne_zero (Nat.ne_of_gt (Nat.zero_lt_of_lt hBound))
    rw [List.length_append] at hBound
    have hRead := h item List.mem_cons_self bound _ (delimited_writeItems [] rest) (by omega)
    rw [readItems_last hRead, List.reverse_cons]
  | cons next items ih =>
    obtain ⟨bound, rfl⟩ := Nat.exists_eq_succ_of_ne_zero (Nat.ne_of_gt (Nat.zero_lt_of_lt hBound))
    rw [List.length_append] at hBound
    have hRead := h item List.mem_cons_self bound _ (delimited_writeItems (next :: items) rest)
      (by omega)
    have hMore := ih (fun json hMem => h json (List.mem_cons_of_mem _ hMem)) bound (item :: front)
      (by simp only [writeItems, List.length_append, List.length_cons] at hBound ⊢; omega)
    rw [writeItems_cons_append] at hRead ⊢
    rw [readItems_more hRead, skipSpace_space, skipSpace_write, hMore, List.reverse_cons,
      List.append_assoc]
    rfl

/-- The fields of an object are read back up to its end. -/
theorem readFields_write {name : String} {value : Json} {fields : List (String × Json)}
    (h : ∀ field ∈ (name, value) :: fields, IsReadable field.2) (bound : Nat)
    (front : List (String × Json)) (rest : List Char)
    (hBound : (write value ++ writeFields fields).length < bound) :
    readFields bound front (writeText name ++ ':' :: ' ' :: (write value ++
        (writeFields fields ++ '\x7d' :: rest))) =
      .ok (front.reverse ++ (name, value) :: fields, rest) := by
  -- the name and the value in front are read before the induction hypothesis takes over the rest
  induction fields generalizing name value bound front with
  | nil =>
    obtain ⟨bound, rfl⟩ := Nat.exists_eq_succ_of_ne_zero (Nat.ne_of_gt (Nat.zero_lt_of_lt hBound))
    rw [List.length_append] at hBound
    have hRead : readValue bound (write value ++ _) = .ok (value, _) :=
      h (name, value) List.mem_cons_self bound _ (delimited_writeFields [] rest)
        (Nat.le_of_lt_succ (Nat.lt_of_le_of_lt (Nat.le_add_right _ _) hBound))
    rw [← skipSpace_write, ← skipSpace_space] at hRead
    rw [readFields_last hRead, List.reverse_cons]
  | cons field fields ih =>
    obtain ⟨other, next⟩ := field
    obtain ⟨bound, rfl⟩ := Nat.exists_eq_succ_of_ne_zero (Nat.ne_of_gt (Nat.zero_lt_of_lt hBound))
    rw [List.length_append] at hBound
    have hRead : readValue bound (write value ++ _) = .ok (value, _) :=
      h (name, value) List.mem_cons_self bound _ (delimited_writeFields ((other, next) :: fields) rest)
        (Nat.le_of_lt_succ (Nat.lt_of_le_of_lt (Nat.le_add_right _ _) hBound))
    have hMore := ih (fun json hMem => h json (List.mem_cons_of_mem _ hMem)) bound
      ((name, value) :: front)
      (by simp only [writeFields, List.length_append, List.length_cons] at hBound ⊢; omega)
    rw [← skipSpace_write, ← skipSpace_space, writeFields_cons_append] at hRead
    rw [writeFields_cons_append]
    obtain ⟨tail, hText, -⟩ := readText_writeText other
      (':' :: ' ' :: (write next ++ (writeFields fields ++ '\x7d' :: rest)))
    rw [hText] at hMore hRead ⊢
    rw [readFields_more hRead, skipSpace_space, skipSpace_of_startsValue (by decide), hMore,
      List.reverse_cons, List.append_assoc]
    rfl

mutual

/-- **Values.** A regular value is read back from its written form. -/
theorem isReadable : (json : Json) → json.IsRegular → json.IsReadable
  -- by recursion on the value; every reader takes one unit of the bound away before it looks at the
  -- text
  | .null, _ => by
    intro bound rest _ hBound
    obtain ⟨bound, rfl⟩ := exists_eq_succ hBound
    rfl
  | .bool true, _ => by
    intro bound rest _ hBound
    obtain ⟨bound, rfl⟩ := exists_eq_succ hBound
    rfl
  | .bool false, _ => by
    intro bound rest _ hBound
    obtain ⟨bound, rfl⟩ := exists_eq_succ hBound
    rfl
  | .int n, hRegular => by
    intro bound rest hRest hBound
    obtain ⟨bound, rfl⟩ := exists_eq_succ hBound
    rw [write, readValue_atom (signedNumeral_start n), readAtom_signedNumeral hRegular hRest]
  | .float x, _ => by
    intro bound rest hRest hBound
    obtain ⟨bound, rfl⟩ := exists_eq_succ hBound
    rw [write, readValue_atom (writeFloat_start x), readAtom_writeFloat x hRest]
  | .text s, _ => by
    intro bound rest _ hBound
    obtain ⟨bound, rfl⟩ := exists_eq_succ hBound
    obtain ⟨tail, hText, hRead⟩ := readText_writeText s rest
    rw [write, hText, readValue, hRead]
    rfl
  | .list [], _ => by
    intro bound rest _ hBound
    obtain ⟨bound, rfl⟩ := exists_eq_succ hBound
    rfl
  | .list (item :: items), hRegular => by
    intro bound rest _ hBound
    obtain ⟨bound, rfl⟩ := exists_eq_succ hBound
    have hItems := readItems_write (areReadable (item :: items) hRegular) bound [] rest
      (by simp only [write, List.length_append, List.length_cons] at hBound ⊢; omega)
    obtain ⟨c, tail, hWrite, hStart⟩ := write_start item
    rw [write_list_append]
    rw [hWrite, List.cons_append] at hItems ⊢
    rw [readValue_list hStart, hItems]
    rfl
  | .object [], _ => by
    intro bound rest _ hBound
    obtain ⟨bound, rfl⟩ := exists_eq_succ hBound
    rfl
  | .object ((name, value) :: fields), hRegular => by
    intro bound rest _ hBound
    obtain ⟨bound, rfl⟩ := exists_eq_succ hBound
    have hFields := readFields_write (haveReadableFields ((name, value) :: fields) hRegular.2)
      bound [] rest (by simp only [write, List.length_append, List.length_cons] at hBound ⊢; omega)
    obtain ⟨tail, hText, -⟩ := readText_writeText name
      (':' :: ' ' :: (write value ++ (writeFields fields ++ '\x7d' :: rest)))
    rw [hText] at hFields
    rw [write_object_append, hText, readValue_object, hFields]
    simp only [Except.map, List.reverse_nil, List.nil_append, Fields.ofPairs_eq_self hRegular.1]

/-- Regular items are read back in front of any text. -/
theorem areReadable : (items : List Json) → AreRegular items → ∀ json ∈ items, json.IsReadable
  | [], _ => List.forall_mem_nil _
  | item :: items, hRegular =>
    List.forall_mem_cons.2 ⟨isReadable item hRegular.1, areReadable items hRegular.2⟩

/-- The values of regular fields are read back in front of any text. -/
theorem haveReadableFields : (fields : List (String × Json)) → HasRegularFields fields →
    ∀ field ∈ fields, field.2.IsReadable
  | [], _ => List.forall_mem_nil _
  | (_, value) :: fields, hRegular =>
    List.forall_mem_cons.2 ⟨isReadable value hRegular.1, haveReadableFields fields hRegular.2⟩

end

/-- **Round trip.** A regular value is what its written form is read as. -/
theorem read_write {json : Json} (h : json.IsRegular) : read (write json) = .ok json := by
  have hValue := isReadable json h (2 * (write json).length + 2) [] (by rintro c ⟨⟩) (by omega)
  rw [List.append_nil] at hValue
  have hSpace := skipSpace_write json []
  rw [List.append_nil] at hSpace
  rw [read, hSpace, hValue]
  rfl

/-- A regular value is what the text of it is read as. -/
theorem ofText_toText {json : Json} (h : json.IsRegular) : ofText json.toText = .ok json := by
  rw [ofText, toText, String.toList_ofList, read_write h]

end Json

end Crontab
