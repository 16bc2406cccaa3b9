import Crontab.Proofs.Json.RoundTrip

/-!
# Agreement of values of JSON texts

Two values agree if they have the same shape and the same leaves, numbers being compared by value,
whatever their kind, and objects without regard to the order of their fields.  Other than in a
comparison, not-a-number agrees with itself.

* `Json.Agrees` — agreement;
* `Json.agrees_of_equals` — values that are equal in a comparison agree;
* `Json.Agrees.refl`, `Json.Agrees.symm`, `Json.Agrees.trans` — agreement of regular values is an
  equivalence.
-/

namespace Crontab

namespace Json

open Number

/-! ## Agreement -/

/-- A number as an integer if it is equal to one; other values as they are. -/
def scalar : Json → Json
  | .bool b => .int (if b then 1 else 0)
  | .float x =>
    match x.toInt? with
    | some n => .int n
    | none => .float x
  | json => json

mutual

/-- Two values have the same shape, and leaves of the same value. -/
def Agrees : Json → Json → Prop
  | .list items, other => ∃ others, other = .list others ∧ ListAgrees items others
  | .object fields, other =>
    ∃ others, other = .object others ∧ fields.length = others.length ∧ FieldsAgree fields others
  | json, other => json.scalar = other.scalar

/-- Two lists agree item by item. -/
def ListAgrees : List Json → List Json → Prop
  | [], others => others = []
  | item :: items, others =>
    ∃ first rest, others = first :: rest ∧ Agrees item first ∧ ListAgrees items rest

/-- Every field of the first record is one of the second, with a value that agrees. -/
def FieldsAgree : List (String × Json) → List (String × Json) → Prop
  | [], _ => True
  | (name, value) :: fields, others =>
    (∃ other, Fields.get? others name = some other ∧ Agrees value other) ∧ FieldsAgree fields others

end

/-- The value is neither a list nor an object. -/
def IsLeaf : Json → Prop
  | .list _ | .object _ => False
  | _ => True

section leaves

variable {a b : Json}

/-- Leaves agree exactly if they are the same once integral numbers are read as integers. -/
theorem agrees_iff_of_isLeaf (h : a.IsLeaf) : Agrees a b ↔ a.scalar = b.scalar := by
  cases a with
  | list items => exact h.elim
  | object fields => exact h.elim
  | _ => exact Iff.rfl

/-- Reading numbers as integers keeps leaves and what is none. -/
theorem isLeaf_scalar (json : Json) : json.scalar.IsLeaf ↔ json.IsLeaf := by
  cases json with
  | float x =>
    unfold scalar
    simp only
    split <;> exact Iff.rfl
  | _ => exact Iff.rfl

/-- What is the same as a leaf is a leaf. -/
theorem IsLeaf.of_scalar_eq (h : a.IsLeaf) (hScalar : a.scalar = b.scalar) : b.IsLeaf := by
  rw [← isLeaf_scalar, ← hScalar, isLeaf_scalar]
  exact h

/-- Agreement goes on over a leaf. -/
theorem agrees_trans_of_isLeaf {c : Json} (h : a.IsLeaf) (hFirst : Agrees a b)
    (hSecond : Agrees b c) : Agrees a c := by
  rw [agrees_iff_of_isLeaf h] at hFirst ⊢
  rw [agrees_iff_of_isLeaf (h.of_scalar_eq hFirst)] at hSecond
  exact hFirst.trans hSecond

/-- Agreement of leaves is mutual. -/
theorem agrees_symm_of_isLeaf (h : a.IsLeaf) (hAgrees : Agrees a b) : Agrees b a := by
  rw [agrees_iff_of_isLeaf h] at hAgrees
  rw [agrees_iff_of_isLeaf (h.of_scalar_eq hAgrees)]
  exact hAgrees.symm

/-- Both zeros are equal to the integer zero. -/
theorem toInt?_of_isZero {x : Binary64} (h : x.isZero = true) : x.toInt? = some 0 := by
  cases x with
  | finite negative exponent fraction =>
    have hZero : Binary64.significandOf exponent fraction = 0 := eq_of_beq h
    have hRatio : (scaleRatio 0 1 (Binary64.scaleOf exponent)).1 = 0 := by
      unfold scaleRatio
      split
      · exact Nat.zero_mul _
      · rfl
    rw [Binary64.toInt?, hZero]
    simp [hRatio]
  | _ => cases h

/-- Equal leaves are the same number, or the same altogether. -/
theorem scalar_eq_of_equals (h : a.IsLeaf) (hEquals : a.equals b = true) : a.scalar = b.scalar := by
  have hInt : ∀ {x : Binary64} {n : Int}, x.toInt? = some n → (Json.float x).scalar = .int n := by
    intro x n hx
    rw [scalar, hx]
  cases a with
  | list items => exact h.elim
  | object fields => exact h.elim
  | null => cases b <;> simp_all [equals, integral?]
  | text s => cases b <;> simp_all [equals, integral?]
  | bool v =>
    cases b with
    | float y => exact (hInt (by simpa [equals, integral?] using hEquals)).symm
    | _ => simp_all [equals, integral?, scalar]
  | int m =>
    cases b with
    | float y => exact (hInt (by simpa [equals, integral?] using hEquals)).symm
    | _ => simp_all [equals, integral?, scalar]
  | float x =>
    cases b with
    | bool v => exact hInt (by simpa [equals, integral?] using hEquals)
    | int n => exact hInt (by simpa [equals, integral?] using hEquals)
    | float y =>
      rw [equals] at hEquals
      cases x with
      | nan => cases hEquals
      | infinity negative =>
        have hSame : Binary64.infinity negative = y := by
          simpa [Binary64.equals, Binary64.isZero] using hEquals
        rw [hSame]
      | finite negative exponent fraction =>
        have hSame : Binary64.finite negative exponent fraction = y ∨
            (Binary64.finite negative exponent fraction).isZero = true ∧ y.isZero = true := by
          simpa [Binary64.equals] using hEquals
        rcases hSame with rfl | ⟨hx, hy⟩
        · rfl
        · rw [hInt (toInt?_of_isZero hx), hInt (toInt?_of_isZero hy)]
    | _ => simp_all [equals, integral?]

end leaves

/-- A leaf of the value of another one is that one or a number. -/
theorem eq_or_integral_of_scalar {json : Json} (h : json.scalar = b) :
    json = b ∨ ∃ n, b = .int n := by
  cases json with
  | float x =>
    rw [scalar] at h
    split at h
    · exact .inr ⟨_, h.symm⟩
    · exact .inl h
  | bool v => exact .inr ⟨_, h.symm⟩
  | _ => exact .inl h

/-- Nothing but `null` agrees with `null`. -/
theorem eq_null_of_agrees (h : Agrees .null b) : b = .null := by
  have hScalar : b.scalar = .null := Eq.symm h
  rcases eq_or_integral_of_scalar hScalar with hNull | ⟨n, ⟨⟩⟩
  exact hNull

/-- Nothing but the same text agrees with a text. -/
theorem eq_text_of_agrees {s : String} (h : Agrees (.text s) b) : b = .text s := by
  have hScalar : b.scalar = .text s := Eq.symm h
  rcases eq_or_integral_of_scalar hScalar with hText | ⟨n, ⟨⟩⟩
  exact hText

/-! ## Equal values agree -/

mutual

/-- **Equal values.** Values that are equal in a comparison agree. -/
theorem agrees_of_equals : (a : Json) → ∀ {b : Json}, a.equals b = true → Agrees a b
  | .null, _, h => scalar_eq_of_equals trivial h
  | .bool _, _, h => scalar_eq_of_equals trivial h
  | .int _, _, h => scalar_eq_of_equals trivial h
  | .float _, _, h => scalar_eq_of_equals trivial h
  | .text _, _, h => scalar_eq_of_equals trivial h
  | .list items, b, h => by
    cases b with
    | list others =>
      rw [equals] at h
      exact ⟨others, rfl, listAgrees_of_equals items h⟩
    | _ => simp [equals, integral?] at h
  | .object fields, b, h => by
    cases b with
    | object others =>
      rw [equals, Bool.and_eq_true] at h
      exact ⟨others, rfl, eq_of_beq h.1, fieldsAgree_of_within fields h.2⟩
    | _ => simp [equals, integral?] at h

/-- Lists that compare as equal agree item by item. -/
theorem listAgrees_of_equals : (items : List Json) → ∀ {others : List Json},
    listEquals items others = true → ListAgrees items others
  | [], [], _ => rfl
  | [], _ :: _, h => nomatch h
  | _ :: _, [], h => nomatch h
  | item :: items, other :: others, h => by
    rw [listEquals, Bool.and_eq_true] at h
    exact ⟨other, others, rfl, agrees_of_equals item h.1, listAgrees_of_equals items h.2⟩

/-- Fields that are found in a record with equal values agree with those there. -/
theorem fieldsAgree_of_within : (fields : List (String × Json)) →
    ∀ {others : List (String × Json)}, fieldsWithin fields others = true →
      FieldsAgree fields others
  | [], _, _ => trivial
  | (name, value) :: fields, others, h => by
    rw [fieldsWithin, Bool.and_eq_true] at h
    refine ⟨?_, fieldsAgree_of_within fields h.2⟩
    cases hOther : Fields.get? others name with
    | none =>
      rw [hOther] at h
      cases h.1
    | some other =>
      rw [hOther] at h
      exact ⟨other, rfl, agrees_of_equals value h.1⟩

end

/-! ## Reflexivity and transitivity -/

mutual

/-- A regular value agrees with itself. -/
theorem Agrees.refl : (a : Json) → a.IsRegular → Agrees a a
  | .null, _ => rfl
  | .bool _, _ => rfl
  | .int _, _ => rfl
  | .float _, _ => rfl
  | .text _, _ => rfl
  | .list items, h => ⟨items, rfl, listAgrees_refl items h⟩
  | .object fields, h =>
    ⟨fields, rfl, rfl,
      fieldsAgree_refl fields h.2 fun _ hField => Fields.get?_of_mem h.1 hField⟩

/-- Regular items agree with themselves. -/
theorem listAgrees_refl : (items : List Json) → AreRegular items → ListAgrees items items
  | [], _ => rfl
  | item :: items, h => ⟨item, items, rfl, Agrees.refl item h.1, listAgrees_refl items h.2⟩

/-- Regular fields agree with a record that has all of them. -/
theorem fieldsAgree_refl : (fields : List (String × Json)) → HasRegularFields fields →
    ∀ {others : List (String × Json)},
      (∀ field ∈ fields, Fields.get? others field.1 = some field.2) → FieldsAgree fields others
  | [], _, _, _ => trivial
  | (_, value) :: fields, h, _, hOthers =>
    ⟨⟨value, hOthers _ List.mem_cons_self, Agrees.refl value h.1⟩,
      fieldsAgree_refl fields h.2 fun field hField =>
        hOthers field (List.mem_cons_of_mem _ hField)⟩

end

/-- The value that agrees with that of a field. -/
theorem FieldsAgree.get? {fields others : List (String × Json)} (h : FieldsAgree fields others)
    {name : String} {value : Json} (hValue : Fields.get? fields name = some value) :
    ∃ other, Fields.get? others name = some other ∧ Agrees value other := by
  induction fields with
  | nil => cases hValue
  | cons field fields ih =>
    obtain ⟨key, own⟩ := field
    rw [Fields.get?] at hValue
    split at hValue
    · next hKey =>
      rw [← hKey, ← Option.some.inj hValue]
      exact h.1
    · exact ih h.2 hValue

/-- Fields agree with a record that has a value under every name, and one that agrees. -/
theorem fieldsAgree_iff {fields others : List (String × Json)} :
    FieldsAgree fields others ↔
      ∀ field ∈ fields, ∃ other, Fields.get? others field.1 = some other ∧
        Agrees field.2 other := by
  induction fields with
  | nil => exact iff_of_true trivial (List.forall_mem_nil _)
  | cons field fields ih =>
    rw [List.forall_mem_cons, ← ih]
    exact Iff.rfl

/-- Records of the same length and of distinct names have the same names if every field of the first
has one in the second, so every field of the second has one in the first. -/
theorem fieldsAgree_of_converse {fields others : List (String × Json)}
    (hNames : (Fields.names fields).Nodup) (hOthers : (Fields.names others).Nodup)
    (hLength : fields.length = others.length)
    (h : ∀ field ∈ fields, ∃ other, Fields.get? others field.1 = some other ∧
      Agrees other field.2) : FieldsAgree others fields := by
  have hSubset : Fields.names fields ⊆ Fields.names others := by
    intro name hName
    obtain ⟨field, hField, rfl⟩ := List.mem_map.1 hName
    obtain ⟨other, hOther, -⟩ := h field hField
    exact List.mem_map.2 ⟨_, Fields.mem_of_get? hOther, rfl⟩
  refine fieldsAgree_iff.2 fun field hField => ?_
  obtain ⟨value, hValue⟩ := Fields.exists_get?_of_mem_names
    (Fields.names_subset hNames hLength.ge hSubset (List.mem_map.2 ⟨field, hField, rfl⟩))
  obtain ⟨other, hOther, hAgrees⟩ := h _ (Fields.mem_of_get? hValue)
  rw [Fields.get?_of_mem hOthers hField] at hOther
  rw [Option.some.inj hOther]
  exact ⟨value, hValue, hAgrees⟩

mutual

/-- Agreement of regular values is mutual. -/
theorem Agrees.symm : (a : Json) → ∀ {b : Json}, a.IsRegular → b.IsRegular → Agrees a b → Agrees b a
  | .null, _, _, _, h => agrees_symm_of_isLeaf trivial h
  | .bool _, _, _, _, h => agrees_symm_of_isLeaf trivial h
  | .int _, _, _, _, h => agrees_symm_of_isLeaf trivial h
  | .float _, _, _, _, h => agrees_symm_of_isLeaf trivial h
  | .text _, _, _, _, h => agrees_symm_of_isLeaf trivial h
  | .list items, _, hFirst, hSecond, ⟨others, hOther, hItems⟩ => by
    subst hOther
    exact ⟨items, rfl, listAgrees_symm items hFirst hSecond hItems⟩
  | .object fields, _, hFirst, hSecond, ⟨others, hOther, hLength, hFields⟩ => by
    subst hOther
    exact ⟨fields, rfl, hLength.symm, fieldsAgree_of_converse hFirst.1 hSecond.1 hLength
      (agrees_of_fieldsAgree fields hFirst.2 hSecond.2 hFields)⟩

/-- Agreement of regular items is mutual. -/
theorem listAgrees_symm : (items : List Json) → ∀ {others : List Json}, AreRegular items →
    AreRegular others → ListAgrees items others → ListAgrees others items
  | [], _, _, _, h => by
    subst h
    rfl
  | item :: items, _, hFirst, hSecond, ⟨first, rest, hOthers, hItem, hItems⟩ => by
    subst hOthers
    exact ⟨item, items, rfl, Agrees.symm item hFirst.1 hSecond.1 hItem,
      listAgrees_symm items hFirst.2 hSecond.2 hItems⟩

/-- The values that regular fields agree with agree with them, too. -/
theorem agrees_of_fieldsAgree : (fields : List (String × Json)) →
    ∀ {others : List (String × Json)}, HasRegularFields fields → HasRegularFields others →
      FieldsAgree fields others → ∀ field ∈ fields,
        ∃ other, Fields.get? others field.1 = some other ∧ Agrees other field.2
  | [], _, _, _, _ => List.forall_mem_nil _
  | (_, value) :: fields, _, hFirst, hSecond, ⟨⟨other, hOther, hValue⟩, hFields⟩ =>
    List.forall_mem_cons.2
      ⟨⟨other, hOther, Agrees.symm value hFirst.1
          (hasRegularFields_iff.1 hSecond _ (Fields.mem_of_get? hOther)) hValue⟩,
        agrees_of_fieldsAgree fields hFirst.2 hSecond hFields⟩

end

mutual

/-- Agreement passes on. -/
theorem Agrees.trans : (a : Json) → ∀ {b c : Json}, Agrees a b → Agrees b c → Agrees a c
  | .null, _, _, h, h' => agrees_trans_of_isLeaf trivial h h'
  | .bool _, _, _, h, h' => agrees_trans_of_isLeaf trivial h h'
  | .int _, _, _, h, h' => agrees_trans_of_isLeaf trivial h h'
  | .float _, _, _, h, h' => agrees_trans_of_isLeaf trivial h h'
  | .text _, _, _, h, h' => agrees_trans_of_isLeaf trivial h h'
  | .list items, _, _, ⟨others, hOther, hItems⟩, h' => by
    subst hOther
    obtain ⟨last, rfl, hLast⟩ := h'
    exact ⟨last, rfl, listAgrees_trans items hItems hLast⟩
  | .object fields, _, _, ⟨others, hOther, hLength, hFields⟩, h' => by
    subst hOther
    obtain ⟨last, rfl, hLength', hLast⟩ := h'
    exact ⟨last, rfl, hLength.trans hLength', fieldsAgree_trans fields hFields hLast⟩

/-- Agreement of items goes on over items in between. -/
theorem listAgrees_trans : (items : List Json) → ∀ {others last : List Json},
    ListAgrees items others → ListAgrees others last → ListAgrees items last
  | [], _, _, h, h' => by
    subst h
    exact h'
  | item :: items, _, _, ⟨first, rest, hOthers, hFirst, hRest⟩, h' => by
    subst hOthers
    obtain ⟨third, left, rfl, hThird, hLeft⟩ := h'
    exact ⟨third, left, rfl, Agrees.trans item hFirst hThird, listAgrees_trans items hRest hLeft⟩

/-- Agreement of fields goes on over fields in between. -/
theorem fieldsAgree_trans : (fields : List (String × Json)) →
    ∀ {others last : List (String × Json)}, FieldsAgree fields others → FieldsAgree others last →
      FieldsAgree fields last
  | [], _, _, _, _ => trivial
  | (_, value) :: fields, _, _, ⟨⟨_, hOther, hValue⟩, hFields⟩, h' => by
    obtain ⟨third, hThird, hLast⟩ := h'.get? hOther
    exact ⟨⟨third, hThird, Agrees.trans value hValue hLast⟩, fieldsAgree_trans fields hFields h'⟩

end

end Json

end Crontab
