import Crontab.Proofs.Time.Iso
import Crontab.Proofs.Value.Agreement

/-!
# Proper values

In a proper value every mapping names each of its fields once, and every moment has an offset of less
than a day.  Its parts are proper, and if a JSON text can hold it, so is what is read from the text.

* `Value.IsProper` — the proper values;
* `Value.IsProper.attribute?` — their attributes are proper;
* `Json.isRegular_of_isProper` — proper values that have a written form are read back from it;
* `Json.isProper_of_isRegular` — what can be read back is proper;
* `Json.isProper_of_agrees` — what agrees with a proper value is proper;
* `Value.IsKeptAs` — what is kept of a value where only values of JSON texts are.
-/

namespace Crontab

namespace Value

/-! ## Proper values -/

mutual

/-- Mappings name each of their fields once, and moments have offsets of less than a day. -/
def IsProper : Value → Prop
  | .list items | .tuple items => AreProper items
  | .mapping fields => (Fields.names fields).Nodup ∧ HaveProperValues fields
  | .moment m => m.IsProper
  | .taskFailure kind message => kind.IsProper ∧ message.IsProper
  | .entity _ attributes => HaveProperValues attributes
  | _ => True

/-- All of some values are proper. -/
def AreProper : List Value → Prop
  | [] => True
  | item :: items => item.IsProper ∧ AreProper items

/-- The values of all fields are proper. -/
def HaveProperValues : List (String × Value) → Prop
  | [] => True
  | (_, value) :: fields => value.IsProper ∧ HaveProperValues fields

end

section parts

variable {value other : Value} {fields : Fields Value} {name : String}

/-- All values of fields are proper exactly if each of them is. -/
theorem haveProperValues_iff : HaveProperValues fields ↔ ∀ field ∈ fields, field.2.IsProper := by
  induction fields with
  | nil => exact iff_of_true trivial (List.forall_mem_nil _)
  | cons field fields ih =>
    rw [List.forall_mem_cons, ← ih]
    exact Iff.rfl

/-- The value under a name is proper. -/
theorem HaveProperValues.get? (h : HaveProperValues fields)
    (hValue : Fields.get? fields name = some value) : value.IsProper :=
  haveProperValues_iff.1 h _ (Fields.mem_of_get? hValue)

/-- The value under a name, or a proper substitute for it, is proper. -/
theorem HaveProperValues.getD (h : HaveProperValues fields) (name : String)
    (hOther : other.IsProper) : ((Fields.get? fields name).getD other).IsProper := by
  cases hValue : Fields.get? fields name with
  | none => exact hOther
  | some value => exact h.get? hValue

/-- A proper value with a proper substitute is proper. -/
theorem IsProper.orElse (h : value.IsProper) (hOther : other.IsProper) :
    (value.orElse other).IsProper := by
  unfold Value.orElse
  split
  · exact h
  · exact hOther

/-- A text or nothing is proper. -/
theorem isProper_ofText? (text : Option String) : (Value.ofText? text).IsProper := by
  cases text <;> trivial

/-- An integer or nothing is proper. -/
theorem isProper_ofInt? (n : Option Int) : (Value.ofInt? n).IsProper := by
  cases n <;> trivial

/-- What an object has by default is proper. -/
theorem haveProperValues_defaults (shape : Shape) : HaveProperValues shape.defaults := by
  cases shape <;> simp [Shape.defaults, HaveProperValues, IsProper]

/-- The attributes of a proper value are proper. -/
theorem IsProper.attributes (h : value.IsProper) : HaveProperValues value.attributes := by
  cases value with
  | entity shape given =>
    rw [Value.attributes, haveProperValues_iff, List.forall_mem_append]
    exact ⟨haveProperValues_iff.1 h, haveProperValues_iff.1 (haveProperValues_defaults shape)⟩
  | taskFailure kind message => exact ⟨h.1, trivial⟩
  | timezoneOptions patch => exact ⟨trivial, trivial, trivial, trivial⟩
  | storageOptions patch =>
    exact ⟨trivial, trivial, trivial, isProper_ofText? _, isProper_ofInt? _, trivial, trivial,
      trivial⟩
  | moduleOptions patch => exact ⟨trivial, isProper_ofText? _, trivial, trivial, trivial⟩
  | _ => trivial

/-- What a proper value has under a name is proper. -/
theorem IsProper.attribute? (h : value.IsProper) (hValue : value.attribute? name = some other) :
    other.IsProper :=
  h.attributes.get? hValue

end parts

/-! ## JSON values of proper values -/

/-- Fields have JSON values if the first one and the further ones have. -/
theorem fieldsToJson?_cons_eq_some {name : String} {value : Value} {fields : Fields Value}
    {jsons : List (String × Json)} (h : fieldsToJson? ((name, value) :: fields) = some jsons) :
    ∃ json rest, jsons = (name, json) :: rest ∧ value.toJson? = some json ∧
      fieldsToJson? fields = some rest := by
  rw [fieldsToJson?] at h
  obtain ⟨json, hJson, h⟩ := Option.bind_eq_some_iff.1 h
  obtain ⟨rest, hRest, h⟩ := Option.bind_eq_some_iff.1 h
  exact ⟨json, rest, (Option.some.inj h).symm, hJson, hRest⟩

/-- Items have JSON values if the first one and the further ones have. -/
theorem listToJson?_cons_eq_some {item : Value} {items : List Value} {jsons : List Json}
    (h : listToJson? (item :: items) = some jsons) :
    ∃ json rest, jsons = json :: rest ∧ item.toJson? = some json ∧
      listToJson? items = some rest := by
  rw [listToJson?] at h
  obtain ⟨json, hJson, h⟩ := Option.bind_eq_some_iff.1 h
  obtain ⟨rest, hRest, h⟩ := Option.bind_eq_some_iff.1 h
  exact ⟨json, rest, (Option.some.inj h).symm, hJson, hRest⟩

/-- Fields keep their names as JSON values. -/
theorem names_of_fieldsToJson? {fields : Fields Value} {jsons : List (String × Json)}
    (h : fieldsToJson? fields = some jsons) : Fields.names jsons = Fields.names fields := by
  induction fields generalizing jsons with
  | nil =>
    rw [← Option.some.inj h]
    rfl
  | cons field fields ih =>
    obtain ⟨json, rest, rfl, -, hRest⟩ := fieldsToJson?_cons_eq_some h
    exact congrArg (field.1 :: ·) (ih hRest)

mutual

/-- The JSON value of a proper value is proper. -/
theorem isProper_of_toJson? : (value : Value) → value.IsProper → ∀ {json : Json},
    value.toJson? = some json → json.toValue.IsProper
  | .null, _, _, h | .bool _, _, _, h | .int _, _, _, h | .float _, _, _, h | .text _, _, _, h
  | .status _, _, _, h => by
    cases h
    trivial
  | .list items, hProper, _, h => by
    obtain ⟨jsons, hJsons, rfl⟩ := Option.map_eq_some_iff.1 h
    exact areProper_of_listToJson? items hProper hJsons
  | .tuple items, hProper, _, h => by
    obtain ⟨jsons, hJsons, rfl⟩ := Option.map_eq_some_iff.1 h
    exact areProper_of_listToJson? items hProper hJsons
  | .mapping fields, hProper, _, h => by
    obtain ⟨jsons, hJsons, rfl⟩ := Option.map_eq_some_iff.1 h
    refine ⟨?_, haveProperValues_of_fieldsToJson? fields hProper.2 hJsons⟩
    rw [Json.names_fieldsToValues, names_of_fieldsToJson? hJsons]
    exact hProper.1
  | .bytes _, _, _, h | .moment _, _, _, h | .action, _, _, h | .failure _ _, _, _, h
  | .taskFailure _ _, _, _, h | .entity _ _, _, _, h | .timezoneOptions _, _, _, h
  | .storageOptions _, _, _, h | .moduleOptions _, _, _, h => nomatch h

/-- The JSON values of proper items are proper. -/
theorem areProper_of_listToJson? : (items : List Value) → AreProper items →
    ∀ {jsons : List Json}, listToJson? items = some jsons → AreProper (Json.listToValues jsons)
  | [], _, _, h => by
    cases h
    trivial
  | item :: items, hProper, _, h => by
    obtain ⟨json, rest, rfl, hJson, hRest⟩ := listToJson?_cons_eq_some h
    exact ⟨isProper_of_toJson? item hProper.1 hJson, areProper_of_listToJson? items hProper.2 hRest⟩

/-- The JSON values of proper fields are proper. -/
theorem haveProperValues_of_fieldsToJson? : (fields : List (String × Value)) →
    HaveProperValues fields → ∀ {jsons : List (String × Json)},
      fieldsToJson? fields = some jsons → HaveProperValues (Json.fieldsToValues jsons)
  | [], _, _, h => by
    cases h
    trivial
  | (_, value) :: fields, hProper, _, h => by
    obtain ⟨json, rest, rfl, hJson, hRest⟩ := fieldsToJson?_cons_eq_some h
    exact ⟨isProper_of_toJson? value hProper.1 hJson,
      haveProperValues_of_fieldsToJson? fields hProper.2 hRest⟩

end

end Value

namespace Json

mutual

/-- **Written forms.** A proper value that has a written form is read back from it. -/
theorem isRegular_of_isProper : (json : Json) → json.toValue.IsProper → json.isWritable = true →
    json.IsRegular
  | .null, _, _ => trivial
  | .bool _, _, _ => trivial
  | .int _, _, h => by
    rw [isWritable, decide_eq_true_eq] at h
    exact h
  | .float _, _, _ => trivial
  | .text _, _, _ => trivial
  | .list items, hProper, h => areRegular_of_areProper items hProper h
  | .object fields, hProper, h =>
    ⟨names_fieldsToValues fields ▸ hProper.1, hasRegularFields_of_haveProperValues fields hProper.2 h⟩

/-- Proper items that can be written are regular. -/
theorem areRegular_of_areProper : (items : List Json) → Value.AreProper (listToValues items) →
    areWritable items = true → AreRegular items
  | [], _, _ => trivial
  | item :: items, hProper, h => by
    rw [areWritable, Bool.and_eq_true] at h
    exact ⟨isRegular_of_isProper item hProper.1 h.1, areRegular_of_areProper items hProper.2 h.2⟩

/-- Proper fields that can be written are regular. -/
theorem hasRegularFields_of_haveProperValues : (fields : List (String × Json)) →
    Value.HaveProperValues (fieldsToValues fields) → haveWritableValues fields = true →
      HasRegularFields fields
  | [], _, _ => trivial
  | (_, value) :: fields, hProper, h => by
    rw [haveWritableValues, Bool.and_eq_true] at h
    exact ⟨isRegular_of_isProper value hProper.1 h.1,
      hasRegularFields_of_haveProperValues fields hProper.2 h.2⟩

end

mutual

/-- Regular values are proper. -/
theorem isProper_of_isRegular : (json : Json) → json.IsRegular → json.toValue.IsProper
  | .null, _ => trivial
  | .bool _, _ => trivial
  | .int _, _ => trivial
  | .float _, _ => trivial
  | .text _, _ => trivial
  | .list items, h => areProper_of_areRegular items h
  | .object fields, h =>
    ⟨(names_fieldsToValues fields).symm ▸ h.1, haveProperValues_of_hasRegularFields fields h.2⟩

/-- Regular items are proper values. -/
theorem areProper_of_areRegular : (items : List Json) → AreRegular items →
    Value.AreProper (listToValues items)
  | [], _ => trivial
  | item :: items, h => ⟨isProper_of_isRegular item h.1, areProper_of_areRegular items h.2⟩

/-- Regular fields are proper values. -/
theorem haveProperValues_of_hasRegularFields : (fields : List (String × Json)) →
    HasRegularFields fields → Value.HaveProperValues (fieldsToValues fields)
  | [], _ => trivial
  | (_, value) :: fields, h =>
    ⟨isProper_of_isRegular value h.1, haveProperValues_of_hasRegularFields fields h.2⟩

end

/-- Records of the same length name their fields once if one of them does and the other one has all of
its names. -/
theorem nodup_names_of_fieldsAgree {fields others : List (String × Json)}
    (h : (Fields.names fields).Nodup) (hLength : fields.length = others.length)
    (hFields : FieldsAgree fields others) :
    (Fields.names others).Nodup ∧ Fields.names others ⊆ Fields.names fields := by
  have hSubset : Fields.names fields ⊆ Fields.names others := by
    intro name hName
    obtain ⟨field, hField, rfl⟩ := List.mem_map.1 hName
    obtain ⟨other, hOther, -⟩ := fieldsAgree_iff.1 hFields field hField
    exact List.mem_map.2 ⟨_, Fields.mem_of_get? hOther, rfl⟩
  have hPerm : (Fields.names fields).Perm (Fields.names others) := by
    refine (List.subperm_of_subset h hSubset).perm_of_length_le ?_
    rw [Fields.names, Fields.names, List.length_map, List.length_map, hLength]
  exact ⟨hPerm.nodup_iff.1 h, hPerm.symm.subset⟩

/-- What agrees with a leaf is proper. -/
theorem isProper_of_agrees_leaf {a b : Json} (h : Agrees a b) (hLeaf : a.IsLeaf) :
    b.toValue.IsProper := by
  have hOther : b.IsLeaf := hLeaf.of_scalar_eq ((agrees_iff_of_isLeaf hLeaf).1 h)
  cases b with
  | list items => exact hOther.elim
  | object fields => exact hOther.elim
  | _ => trivial

mutual

/-- What agrees with a proper value is proper. -/
theorem isProper_of_agrees : (a : Json) → a.toValue.IsProper → ∀ {b : Json}, Agrees a b →
    b.toValue.IsProper
  | .null, _, _, h => isProper_of_agrees_leaf h trivial
  | .bool _, _, _, h => isProper_of_agrees_leaf h trivial
  | .int _, _, _, h => isProper_of_agrees_leaf h trivial
  | .float _, _, _, h => isProper_of_agrees_leaf h trivial
  | .text _, _, _, h => isProper_of_agrees_leaf h trivial
  | .list items, hProper, _, ⟨others, hOther, hItems⟩ => by
    subst hOther
    exact areProper_of_listAgrees items hProper hItems
  | .object fields, hProper, _, ⟨others, hOther, hLength, hFields⟩ => by
    subst hOther
    have hNames := hProper.1
    rw [names_fieldsToValues] at hNames
    obtain ⟨hNodup, hSubset⟩ := nodup_names_of_fieldsAgree hNames hLength hFields
    refine ⟨names_fieldsToValues others ▸ hNodup, Value.haveProperValues_iff.2 ?_⟩
    intro field hField
    rw [fieldsToValues_eq_map] at hField
    obtain ⟨other, hOther, rfl⟩ := List.mem_map.1 hField
    exact isProper_of_fieldsAgree fields hProper.2 hFields _
      (hSubset (List.mem_map.2 ⟨other, hOther, rfl⟩)) (Fields.get?_of_mem hNodup hOther)

/-- Items that agree with proper ones are proper. -/
theorem areProper_of_listAgrees : (items : List Json) → Value.AreProper (listToValues items) →
    ∀ {others : List Json}, ListAgrees items others → Value.AreProper (listToValues others)
  | [], _, _, h => by
    subst h
    trivial
  | item :: items, hProper, _, ⟨first, rest, hOthers, hItem, hItems⟩ => by
    subst hOthers
    exact ⟨isProper_of_agrees item hProper.1 hItem, areProper_of_listAgrees items hProper.2 hItems⟩

/-- The values that proper fields agree with are proper. -/
theorem isProper_of_fieldsAgree : (fields : List (String × Json)) →
    Value.HaveProperValues (fieldsToValues fields) → ∀ {others : List (String × Json)},
      FieldsAgree fields others → ∀ name ∈ Fields.names fields, ∀ {value : Json},
        Fields.get? others name = some value → value.toValue.IsProper
  | [], _, _, _, _, hName, _, _ => nomatch hName
  | (_, own) :: fields, hProper, _, ⟨⟨_, hOther, hOwn⟩, hFields⟩, name, hName, value, hValue => by
    rcases List.mem_cons.1 hName with rfl | hName
    · rw [← Option.some.inj (hOther.symm.trans hValue)]
      exact isProper_of_agrees own hProper.1 hOwn
    · exact isProper_of_fieldsAgree fields hProper.2 hFields name hName hValue

end

end Json

/-! ## What is kept of a value -/

namespace Value

/-- What is kept of a value agrees with its JSON value. -/
def IsKeptAs (value kept : Value) : Prop :=
  ∃ json : Json, value.toJson? = some json ∧ json.toValue.Agrees kept

section kept

variable {value kept : Value} {fields : Fields Value}

/-- A proper value is kept as its JSON value, if that has a written form. -/
theorem IsProper.isKeptAs (h : value.IsProper) {json : Json} (hJson : value.toJson? = some json)
    (hWritable : json.isWritable = true) : value.IsKeptAs json.toValue := by
  have hRegular := json.isRegular_of_isProper (value.isProper_of_toJson? h hJson) hWritable
  exact ⟨json, hJson, json, json, rfl, rfl, .refl json hRegular⟩

/-- What is kept of a proper value is proper. -/
theorem IsKeptAs.isProper (h : value.IsKeptAs kept) (hValue : value.IsProper) : kept.IsProper := by
  obtain ⟨json, hJson, a, b, hSame, rfl, hAgrees⟩ := h
  have hProper := value.isProper_of_toJson? hValue hJson
  rw [← hSame] at hProper
  exact a.isProper_of_agrees hProper hAgrees

/-- A value counts as true exactly if its JSON value does. -/
theorem isTruthy_of_toJson? {json : Json} (h : value.toJson? = some json) :
    json.toValue.isTruthy = value.isTruthy := by
  have hItems : ∀ {items : List Value} {jsons : List Json}, listToJson? items = some jsons →
      (!(Json.listToValues jsons).isEmpty) = !items.isEmpty := by
    intro items jsons hJsons
    cases items with
    | nil => rw [← Option.some.inj hJsons]; rfl
    | cons item items =>
      obtain ⟨json, rest, rfl, -⟩ := listToJson?_cons_eq_some hJsons
      rfl
  cases value with
  | list items =>
    obtain ⟨jsons, hJsons, rfl⟩ := Option.map_eq_some_iff.1 h
    exact hItems hJsons
  | tuple items =>
    obtain ⟨jsons, hJsons, rfl⟩ := Option.map_eq_some_iff.1 h
    exact hItems hJsons
  | mapping fields =>
    obtain ⟨jsons, hJsons, rfl⟩ := Option.map_eq_some_iff.1 h
    cases fields with
    | nil => rw [← Option.some.inj hJsons]; rfl
    | cons field fields =>
      obtain ⟨json, rest, rfl, -⟩ := fieldsToJson?_cons_eq_some hJsons
      rfl
  | status status =>
    rw [← Option.some.inj h]
    cases status <;> rfl
  | _ => cases h <;> rfl

/-- What is kept of a value counts as present if the value does. -/
theorem IsKeptAs.isTruthy_eq (h : value.IsKeptAs kept) : kept.isTruthy = value.isTruthy := by
  obtain ⟨json, hJson, hAgrees⟩ := h
  rw [← hAgrees.isTruthy_eq, isTruthy_of_toJson? hJson]

/-- A text is kept as it is. -/
theorem IsKeptAs.eq_text {s : String} (h : (Value.text s).IsKeptAs kept) : kept = .text s := by
  obtain ⟨json, hJson, hAgrees⟩ := h
  rw [← Option.some.inj hJson] at hAgrees
  exact hAgrees.eq_text

/-- `null` is kept as it is. -/
theorem IsKeptAs.eq_null (h : Value.null.IsKeptAs kept) : kept = .null := by
  obtain ⟨json, hJson, hAgrees⟩ := h
  rw [← Option.some.inj hJson] at hAgrees
  exact hAgrees.eq_null

/-- The value under a name has a JSON value, which is under that name. -/
theorem get?_of_fieldsToJson? {name : String} {jsons : List (String × Json)}
    (h : fieldsToJson? fields = some jsons) (hValue : Fields.get? fields name = some value) :
    ∃ json, value.toJson? = some json ∧ Fields.get? jsons name = some json := by
  induction fields generalizing jsons with
  | nil => cases hValue
  | cons field fields ih =>
    obtain ⟨key, own⟩ := field
    obtain ⟨json, rest, rfl, hJson, hRest⟩ := fieldsToJson?_cons_eq_some h
    rw [Fields.get?] at hValue ⊢
    by_cases hKey : key = name
    · rw [if_pos hKey] at hValue ⊢
      rw [← Option.some.inj hValue]
      exact ⟨json, hJson, rfl⟩
    · rw [if_neg hKey] at hValue ⊢
      exact ih hRest hValue

/-- **Mappings.** What is kept of a mapping is a mapping, and keeps all of its fields. -/
theorem IsKeptAs.of_mapping (h : (Value.mapping fields).IsKeptAs kept) :
    ∃ others, kept = .mapping others ∧ ∀ (name : String) {value : Value},
      Fields.get? fields name = some value →
        ∃ found, Fields.get? others name = some found ∧ value.IsKeptAs found := by
  obtain ⟨json, hJson, hAgrees⟩ := h
  obtain ⟨jsons, hJsons, rfl⟩ := Option.map_eq_some_iff.1 hJson
  obtain ⟨others, rfl, hOthers⟩ := hAgrees.of_mapping
  refine ⟨others, rfl, ?_⟩
  intro name value hValue
  obtain ⟨own, hOwn, hGet⟩ := get?_of_fieldsToJson? hJsons hValue
  obtain ⟨found, hFound, hSame⟩ := hOthers name
    ((Json.get?_fieldsToValues jsons name).trans (congrArg (Option.map Json.toValue) hGet))
  exact ⟨found, hFound, own, hOwn, hSame⟩

end kept

end Value

end Crontab
