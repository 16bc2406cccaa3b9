import Crontab.Proofs.Data.Outcomes
import Crontab.Proofs.Json.RoundTrip

/-!
# Limits of JSON texts

An integer in a JSON text is read only if it has no more digits than are written, and of fields with
one name only the last one is kept.  Whatever is read from a text can therefore be written again, shown
in a message, and read back.

* `Json.isRegular_of_ofText` — what is read is regular;
* `Json.isWritable_of_ofText` — it has a written form.
-/

namespace Crontab.Json

open Text

/-! ## Records -/

/-- A record made of regular fields is regular. -/
theorem isRegular_ofPairs {fields : List (String × Json)} (h : ∀ field ∈ fields, field.2.IsRegular) :
    (Json.object (Fields.ofPairs fields)).IsRegular :=
  ⟨Fields.nodup_names_ofPairs fields,
    hasRegularFields_iff.2 fun field hField => h field (Fields.mem_ofPairs hField)⟩

/-! ## Leaves -/

section leaves

variable {text rest : List Char} {json : Json}

/-- What is read as an integer part is digits. -/
theorem isDigit_of_readWhole? {whole : List Char} (h : readWhole? text = some (whole, rest)) :
    ∀ c ∈ whole, c.isDigit = true := by
  rw [readWhole?.eq_def] at h
  split at h
  · obtain ⟨rfl, -⟩ := Prod.mk.inj (Option.some.inj h)
    exact List.forall_mem_singleton.2 rfl
  · split at h
    · obtain ⟨rfl, -⟩ := Prod.mk.inj (Option.some.inj h)
      exact fun c hc => List.mem_takeWhile_imp hc
    · cases h
  · cases h

/-- A numeral that is read has no more digits than are written. -/
theorem length_numeral_of_readNumeral {digits : List Char} {n : Nat}
    (hDigits : ∀ c ∈ digits, c.isDigit = true) (h : readNumeral digits = .ok n) :
    (numeral n).length ≤ digitLimit := by
  rw [readNumeral] at h
  split at h
  · cases h
  · next hShort =>
    obtain rfl := Except.ok.inj h
    have hPower : 10 ^ digits.length ≤ 10 ^ digitLimit :=
      Nat.pow_le_pow_right (by decide) (Nat.not_lt.1 hShort)
    rw [length_numeral_le_iff (by decide)]
    exact Nat.lt_of_lt_of_le (numeralValue_lt hDigits) hPower

/-- A number is read as a regular value, since its digits are counted. -/
theorem isRegular_of_readMagnitude {negative : Bool}
    (h : readMagnitude negative text = .ok (json, rest)) : json.IsRegular := by
  rw [readMagnitude] at h
  split at h
  · cases h
  · next whole after hWhole =>
    dsimp only at h
    split at h
    · split at h
      · next n hNumeral =>
        obtain ⟨rfl, -⟩ := Prod.mk.inj (Except.ok.inj h)
        have hLength := length_numeral_of_readNumeral (isDigit_of_readWhole? hWhole) hNumeral
        have hAbs : (if negative = true then -(n : Int) else n).natAbs = n := by
          split <;> omega
        rw [IsRegular, hAbs]
        exact hLength
      · cases h
    · obtain ⟨rfl, -⟩ := Prod.mk.inj (Except.ok.inj h)
      trivial

/-- A name or a number with its sign is read as a regular value. -/
theorem isRegular_of_readAtom (h : readAtom text = .ok (json, rest)) : json.IsRegular := by
  have hLiterals : ∀ entry ∈ literals, entry.2.IsRegular := by
    simp [literals, IsRegular]
  rw [readAtom.eq_def] at h
  split at h
  · next reading hReading =>
    obtain rfl := Except.ok.inj h
    obtain ⟨⟨name, value⟩, hMem, hAfter⟩ := List.exists_of_findSome?_eq_some hReading
    obtain ⟨_, -, hPair⟩ := Option.map_eq_some_iff.1 hAfter
    obtain ⟨rfl, -⟩ := Prod.mk.inj hPair
    exact hLiterals _ hMem
  · split at h <;> exact isRegular_of_readMagnitude h

end leaves

/-! ## Values -/

/-- What the readers make of a text within a bound is regular. -/
structure ReadRegular (bound : Nat) : Prop where
  value : ∀ {text rest json}, readValue bound text = .ok (json, rest) → json.IsRegular
  items : ∀ {read text items rest}, (∀ item ∈ read, item.IsRegular) →
    readItems bound read text = .ok (items, rest) → ∀ item ∈ items, item.IsRegular
  fields : ∀ {read text fields rest}, (∀ field ∈ read, field.2.IsRegular) →
    readFields bound read text = .ok (fields, rest) → ∀ field ∈ fields, field.2.IsRegular

namespace ReadRegular

variable {bound : Nat}

/-- A value is read as a regular one if all that is read within the next smaller bound is. -/
theorem value_succ (h : ReadRegular bound) {text rest : List Char} {json : Json}
    (hRead : readValue (bound + 1) text = .ok (json, rest)) : json.IsRegular := by
  rw [readValue.eq_def] at hRead
  dsimp only at hRead
  split at hRead
  · obtain ⟨⟨s, after⟩, -, hText⟩ := map_eq_ok.1 hRead
    obtain ⟨rfl, -⟩ := Prod.mk.inj hText
    trivial
  · split at hRead
    · obtain ⟨rfl, -⟩ := Prod.mk.inj (Except.ok.inj hRead)
      trivial
    · obtain ⟨⟨items, after⟩, hItems, hList⟩ := map_eq_ok.1 hRead
      obtain ⟨rfl, -⟩ := Prod.mk.inj hList
      exact areRegular_iff.2 (h.items (List.forall_mem_nil _) hItems)
  · split at hRead
    · obtain ⟨rfl, -⟩ := Prod.mk.inj (Except.ok.inj hRead)
      exact ⟨List.nodup_nil, trivial⟩
    · obtain ⟨⟨fields, after⟩, hFields, hObject⟩ := map_eq_ok.1 hRead
      obtain ⟨rfl, -⟩ := Prod.mk.inj hObject
      exact isRegular_ofPairs (h.fields (List.forall_mem_nil _) hFields)
  · exact isRegular_of_readAtom hRead

/-- The items of a list are regular if those read before are. -/
theorem items_succ (h : ReadRegular bound) {read : List Json} {text rest : List Char}
    {items : List Json} (hBefore : ∀ item ∈ read, item.IsRegular)
    (hRead : readItems (bound + 1) read text = .ok (items, rest)) :
    ∀ item ∈ items, item.IsRegular := by
  rw [readItems] at hRead
  split at hRead
  · cases hRead
  · next item after hItem =>
    have hAll : ∀ own ∈ item :: read, own.IsRegular :=
      List.forall_mem_cons.2 ⟨h.value hItem, hBefore⟩
    split at hRead
    · exact h.items hAll hRead
    · obtain ⟨rfl, -⟩ := Prod.mk.inj (Except.ok.inj hRead)
      exact fun own hOwn => hAll own (List.mem_reverse.1 hOwn)
    · cases hRead

/-- The values of the fields of an object are regular if those read before are. -/
theorem fields_succ (h : ReadRegular bound) {read : List (String × Json)} {text rest : List Char}
    {fields : List (String × Json)} (hBefore : ∀ field ∈ read, field.2.IsRegular)
    (hRead : readFields (bound + 1) read text = .ok (fields, rest)) :
    ∀ field ∈ fields, field.2.IsRegular := by
  rw [readFields.eq_def] at hRead
  dsimp only at hRead
  split at hRead
  · split at hRead
    · cases hRead
    · split at hRead
      · split at hRead
        · cases hRead
        · next value _ hValue =>
          have hAll : ∀ name, ∀ field ∈ (name, value) :: read, field.2.IsRegular :=
            fun name => List.forall_mem_cons.2 ⟨h.value hValue, hBefore⟩
          split at hRead
          · exact h.fields (hAll _) hRead
          · obtain ⟨rfl, -⟩ := Prod.mk.inj (Except.ok.inj hRead)
            exact fun own hOwn => hAll _ own (List.mem_reverse.1 hOwn)
          · cases hRead
      · cases hRead
  · cases hRead

end ReadRegular

/-- By induction on the bound, in which every reader calls the others with a smaller one. -/
theorem readRegular (bound : Nat) : ReadRegular bound := by
  induction bound with
  | zero =>
    refine ⟨?_, ?_, ?_⟩
    · rintro _ _ _ ⟨⟩
    · rintro _ _ _ _ - ⟨⟩
    · rintro _ _ _ _ - ⟨⟩
  | succ bound ih => exact ⟨ih.value_succ, ih.items_succ, ih.fields_succ⟩

/-- **Limits.** What is read from a text is regular. -/
theorem isRegular_of_ofText {text : String} {json : Json} (h : ofText text = .ok json) :
    json.IsRegular := by
  rw [ofText, read] at h
  split at h
  · cases h
  · next value rest hValue =>
    split at h
    · obtain rfl := Except.ok.inj h
      exact (readRegular _).value hValue
    · cases h

/-- What is read from a text has a written form. -/
theorem isWritable_of_ofText {text : String} {json : Json} (h : ofText text = .ok json) :
    json.isWritable = true :=
  json.isWritable_of_isRegular (isRegular_of_ofText h)

end Crontab.Json
