import Crontab.Proofs.Json.RoundTrip
import Crontab.Value.Basic

/-!
# Values of JSON texts

The values that a JSON text can hold, and what they are written and read as.

* `Json.toJson?_toValue` — a JSON value is the JSON value of its value;
* `Value.IsJson` — the values that a JSON text holds unchanged;
* `Value.IsJson.mapping` — mappings of such values.
-/

namespace Crontab

namespace Json

mutual

/-- A JSON value is the JSON value of its value. -/
theorem toJson?_toValue : (json : Json) → json.toValue.toJson? = some json
  | .null => rfl
  | .bool _ => rfl
  | .int _ => rfl
  | .float _ => rfl
  | .text _ => rfl
  | .list items => by rw [toValue, Value.toJson?, listToJson?_listToValues items, Option.map_some]
  | .object fields => by
    rw [toValue, Value.toJson?, fieldsToJson?_fieldsToValues fields, Option.map_some]

/-- Items that come from JSON values have these as their JSON values. -/
theorem listToJson?_listToValues : (items : List Json) →
    Value.listToJson? (listToValues items) = some items
  | [] => rfl
  | item :: items => by
    rw [listToValues, Value.listToJson?, toJson?_toValue item, listToJson?_listToValues items]
    rfl

/-- Fields that come from JSON values have these as their JSON values. -/
theorem fieldsToJson?_fieldsToValues : (fields : List (String × Json)) →
    Value.fieldsToJson? (fieldsToValues fields) = some fields
  | [] => rfl
  | (name, value) :: fields => by
    rw [fieldsToValues, Value.fieldsToJson?, toJson?_toValue value,
      fieldsToJson?_fieldsToValues fields]
    rfl

end

/-- The fields of a JSON record become values one by one. -/
theorem fieldsToValues_eq_map (fields : List (String × Json)) :
    fieldsToValues fields = fields.map fun field => (field.1, field.2.toValue) := by
  induction fields with
  | nil => rfl
  | cons field fields ih => rw [fieldsToValues, ih, List.map_cons]

/-- The fields of a JSON record keep their names as values. -/
theorem names_fieldsToValues (fields : List (String × Json)) :
    Fields.names (fieldsToValues fields) = Fields.names fields := by
  rw [fieldsToValues_eq_map, Fields.names, Fields.names, List.map_map]
  rfl

end Json

namespace Value

/-- The value is one that a JSON text holds unchanged. -/
def IsJson (value : Value) : Prop :=
  ∃ json : Json, json.IsRegular ∧ json.toValue = value

theorem IsJson.null : IsJson .null :=
  ⟨.null, trivial, rfl⟩

theorem IsJson.text (s : String) : IsJson (.text s) :=
  ⟨.text s, trivial, rfl⟩

/-- An integer of not too many digits has a JSON value. -/
theorem IsJson.int {n : Int} (h : (Text.numeral n.natAbs).length ≤ Text.digitLimit) :
    IsJson (.int n) :=
  ⟨.int n, h, rfl⟩

/-- **Mappings.** A mapping with distinct names is one if all of its values are. -/
theorem IsJson.mapping {fields : Fields Value} (hNames : (Fields.names fields).Nodup)
    (h : ∀ field ∈ fields, field.2.IsJson) : IsJson (.mapping fields) := by
  have hFields : ∃ jsons : List (String × Json), Json.HasRegularFields jsons ∧
      Json.fieldsToValues jsons = fields := by
    clear hNames
    induction fields with
    | nil => exact ⟨[], trivial, rfl⟩
    | cons field fields ih =>
      rw [List.forall_mem_cons] at h
      obtain ⟨jsons, hRegular, hJsons⟩ := ih h.2
      obtain ⟨json, hOwn, hJson⟩ := h.1
      refine ⟨(field.1, json) :: jsons, ⟨hOwn, hRegular⟩, ?_⟩
      rw [Json.fieldsToValues, hJson, hJsons]
  obtain ⟨jsons, hRegular, rfl⟩ := hFields
  rw [Json.names_fieldsToValues] at hNames
  exact ⟨.object jsons, ⟨hNames, hRegular⟩, rfl⟩

end Value

end Crontab
