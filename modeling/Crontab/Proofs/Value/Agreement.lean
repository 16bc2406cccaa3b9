import Crontab.Proofs.Json.Agreement
import Crontab.Proofs.Value.Json

/-!
# Agreement of values

Agreement of JSON values, as a relation between the values that they are.

* `Value.Agrees`, `FieldsAlike` — agreement of values, and of records field by field;
* `Value.Agrees.isTruthy_eq` — values that agree count as present together;
* `Value.agrees_mapping`, `Value.Agrees.of_mapping` — agreement of mappings.
-/

namespace Crontab

open Number

namespace Json

/-- Different JSON values are different values. -/
theorem toValue_injective {a b : Json} (h : a.toValue = b.toValue) : a = b := by
  have hJson := a.toJson?_toValue
  rw [h, b.toJson?_toValue] at hJson
  exact (Option.some.inj hJson).symm

/-- The value under a name is the image of the JSON value there. -/
theorem get?_fieldsToValues (fields : List (String × Json)) (name : String) :
    Fields.get? (fieldsToValues fields) name = (Fields.get? fields name).map toValue := by
  rw [fieldsToValues_eq_map]
  exact Fields.get?_map fields (fun _ => toValue) name

/-! ## Leaves that count as present -/

/-- Of the numbers that are equal to an integer, the zeros are equal to zero. -/
theorem isZero_iff_of_toInt? {x : Binary64} {n : Int} (h : x.toInt? = some n) :
    x.isZero = true ↔ n = 0 := by
  refine ⟨fun hZero => ?_, fun hZero => ?_⟩
  · rw [toInt?_of_isZero hZero] at h
    exact (Option.some.inj h).symm
  · subst hZero
    cases x with
    | finite negative exponent fraction =>
      rw [Binary64.toInt?] at h
      simp only at h
      split at h
      · next hRest =>
        have hQuotient : (scaleRatio (Binary64.significandOf exponent fraction) 1
            (Binary64.scaleOf exponent)).1 / (scaleRatio (Binary64.significandOf exponent fraction) 1
            (Binary64.scaleOf exponent)).2 = 0 := by
          have hValue := Option.some.inj h
          split at hValue <;> omega
        have hNum := Nat.div_add_mod (scaleRatio (Binary64.significandOf exponent fraction) 1
          (Binary64.scaleOf exponent)).1 (scaleRatio (Binary64.significandOf exponent fraction) 1
          (Binary64.scaleOf exponent)).2
        rw [hQuotient, hRest, Nat.mul_zero] at hNum
        refine beq_of_eq ?_
        unfold scaleRatio at hNum
        split at hNum
        · rcases Nat.mul_eq_zero.1 hNum.symm with hZero | hPower
          · exact hZero
          · exact absurd hPower (Nat.ne_of_gt (Nat.two_pow_pos _))
        · exact hNum.symm
      · cases h
    | _ => cases h

/-- A number counts as true exactly if the integer that it is equal to does. -/
theorem isTruthy_scalar (json : Json) : json.scalar.toValue.isTruthy = json.toValue.isTruthy := by
  cases json with
  | bool b => cases b <;> rfl
  | float x =>
    rw [scalar]
    split
    · next n hInt =>
      have hZero := isZero_iff_of_toInt? hInt
      rw [toValue, toValue, Value.isTruthy, Value.isTruthy]
      cases hIsZero : x.isZero with
      | true => simp [hZero.1 hIsZero]
      | false =>
        have hNe : n ≠ 0 := fun h => by simp [hZero.2 h] at hIsZero
        simp [hNe]
    · rfl
  | _ => rfl

/-- Values that agree count as true together. -/
theorem Agrees.isTruthy_eq {a b : Json} (h : a.Agrees b) :
    a.toValue.isTruthy = b.toValue.isTruthy := by
  cases a with
  | list items =>
    obtain ⟨others, rfl, hItems⟩ := h
    cases items with
    | nil =>
      rw [ListAgrees] at hItems
      rw [hItems]
    | cons item items =>
      obtain ⟨first, rest, rfl, -⟩ := hItems
      rfl
  | object fields =>
    obtain ⟨others, rfl, hLength, -⟩ := h
    cases fields with
    | nil =>
      rw [List.length_eq_zero_iff.1 hLength.symm]
    | cons field fields =>
      cases others with
      | nil => cases hLength
      | cons other others => rfl
  | _ =>
    rw [← isTruthy_scalar, ← isTruthy_scalar b]
    exact congrArg (fun json : Json => json.toValue.isTruthy) h

end Json

/-! ## Values -/

namespace Value

/-- The values are JSON values that agree. -/
def Agrees (value other : Value) : Prop :=
  ∃ a b : Json, a.toValue = value ∧ b.toValue = other ∧ a.Agrees b

variable {value other : Value}

/-- A JSON value agrees with itself. -/
theorem IsJson.agrees (h : value.IsJson) : value.Agrees value := by
  obtain ⟨json, hRegular, hValue⟩ := h
  exact ⟨json, json, hValue, hValue, Json.Agrees.refl json hRegular⟩

/-- Agreement of JSON values is mutual. -/
theorem Agrees.symm (h : value.Agrees other) (hValue : value.IsJson) (hOther : other.IsJson) :
    other.Agrees value := by
  obtain ⟨a, b, rfl, rfl, hAgrees⟩ := h
  obtain ⟨json, hFirst, hSame⟩ := hValue
  obtain rfl := Json.toValue_injective hSame
  obtain ⟨json, hSecond, hSame⟩ := hOther
  obtain rfl := Json.toValue_injective hSame
  exact ⟨_, _, rfl, rfl, Json.Agrees.symm _ hFirst hSecond hAgrees⟩

/-- Agreement goes on over a value in between. -/
theorem Agrees.trans {last : Value} (h : value.Agrees other) (h' : other.Agrees last) :
    value.Agrees last := by
  obtain ⟨a, b, hValue, hOther, hFirst⟩ := h
  obtain ⟨b', c, hOther', hLast, hSecond⟩ := h'
  obtain rfl := Json.toValue_injective (hOther.trans hOther'.symm)
  exact ⟨a, c, hValue, hLast, Json.Agrees.trans a hFirst hSecond⟩

/-- Values that agree count as present together. -/
theorem Agrees.isTruthy_eq (h : value.Agrees other) : value.isTruthy = other.isTruthy := by
  obtain ⟨a, b, rfl, rfl, hAgrees⟩ := h
  exact hAgrees.isTruthy_eq

/-- Values agree with their substitutes in place if these agree. -/
theorem Agrees.orElse {second second' : Value} (h : value.Agrees other)
    (h' : second.Agrees second') : (value.orElse second).Agrees (other.orElse second') := by
  rw [Value.orElse, Value.orElse, h.isTruthy_eq]
  split
  · exact h
  · exact h'

/-- Nothing but `null` agrees with `null`. -/
theorem Agrees.eq_null (h : Value.null.Agrees other) : other = .null := by
  obtain ⟨a, b, hNull, rfl, hAgrees⟩ := h
  obtain rfl : a = .null := Json.toValue_injective hNull
  rw [Json.eq_null_of_agrees hAgrees]
  rfl

/-- Nothing but the same text agrees with a text. -/
theorem Agrees.eq_text {s : String} (h : (Value.text s).Agrees other) : other = .text s := by
  obtain ⟨a, b, hText, rfl, hAgrees⟩ := h
  obtain rfl : a = .text s := Json.toValue_injective hText
  rw [Json.eq_text_of_agrees hAgrees]
  rfl

end Value

/-! ## Records -/

/-- Two records have the same names in the same order, and values that agree. -/
def FieldsAlike (fields others : Fields Value) : Prop :=
  Fields.Related Value.Agrees fields others

namespace Value

variable {fields others : Fields Value}

/-- A record of JSON values is alike to itself. -/
theorem fieldsAlike_refl (h : ∀ field ∈ fields, field.2.IsJson) : FieldsAlike fields fields :=
  List.forall₂_same.2 fun field hField => ⟨rfl, (h field hField).agrees⟩

/-- Records that are alike come from JSON records whose values agree. -/
theorem exists_jsons_of_alike (h : FieldsAlike fields others) :
    ∃ jsons jsons' : List (String × Json), Json.fieldsToValues jsons = fields ∧
      Json.fieldsToValues jsons' = others ∧ Fields.Related Json.Agrees jsons jsons' := by
  induction h with
  | nil => exact ⟨[], [], rfl, rfl, .nil⟩
  | @cons field other fields others hField _ ih =>
    obtain ⟨jsons, jsons', rfl, rfl, hJsons⟩ := ih
    obtain ⟨hName, a, b, hFirst, hSecond, hAgrees⟩ := hField
    refine ⟨(field.1, a) :: jsons, (other.1, b) :: jsons', ?_, ?_, .cons ⟨hName, hAgrees⟩ hJsons⟩
    · rw [Json.fieldsToValues, hFirst]
    · rw [Json.fieldsToValues, hSecond]

/-- **Mappings.** Records with distinct names that are alike agree as mappings. -/
theorem agrees_mapping (h : FieldsAlike fields others) (hNames : (Fields.names fields).Nodup) :
    (Value.mapping fields).Agrees (.mapping others) := by
  obtain ⟨jsons, jsons', rfl, rfl, hJsons⟩ := exists_jsons_of_alike h
  rw [Json.names_fieldsToValues] at hNames
  refine ⟨.object jsons, .object jsons', rfl, rfl, jsons', rfl, hJsons.length_eq, ?_⟩
  exact Json.fieldsAgree_iff.2 fun field hField =>
    hJsons.exists_get? (Fields.get?_of_mem hNames hField)

/-- What agrees with a mapping is a mapping that has all of its names. -/
theorem Agrees.of_mapping {other : Value} (h : (Value.mapping fields).Agrees other) :
    ∃ others, other = .mapping others ∧ ∀ (name : String) {value : Value},
      Fields.get? fields name = some value →
        ∃ found, Fields.get? others name = some found ∧ value.Agrees found := by
  obtain ⟨a, b, hFields, rfl, hAgrees⟩ := h
  cases a with
  | object jsons =>
    obtain rfl : Json.fieldsToValues jsons = fields := by
      rw [Json.toValue] at hFields
      exact Value.mapping.inj hFields
    obtain ⟨jsons', rfl, -, hJsons⟩ := hAgrees
    refine ⟨Json.fieldsToValues jsons', rfl, fun name value hValue => ?_⟩
    rw [Json.get?_fieldsToValues, Option.map_eq_some_iff] at hValue
    obtain ⟨json, hJson, rfl⟩ := hValue
    obtain ⟨found, hFound, hSame⟩ := hJsons.get? hJson
    exact ⟨found.toValue, by rw [Json.get?_fieldsToValues, hFound]; rfl, json, found, rfl, rfl,
      hSame⟩
  | _ => cases hFields

/-- A field of a JSON value is one. -/
theorem IsJson.get? (h : (Value.mapping fields).IsJson) {name : String} {value : Value}
    (hValue : Fields.get? fields name = some value) : value.IsJson := by
  obtain ⟨json, hRegular, hFields⟩ := h
  cases json with
  | object jsons =>
    obtain rfl : Json.fieldsToValues jsons = fields := by
      rw [Json.toValue] at hFields
      exact Value.mapping.inj hFields
    rw [Json.get?_fieldsToValues, Option.map_eq_some_iff] at hValue
    obtain ⟨own, hOwn, rfl⟩ := hValue
    exact ⟨own, Json.hasRegularFields_iff.1 hRegular.2 _ (Fields.mem_of_get? hOwn), rfl⟩
  | _ => cases hFields

end Value

end Crontab
