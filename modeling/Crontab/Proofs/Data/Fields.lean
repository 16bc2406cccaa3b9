import Crontab.Data.Fields
import Mathlib.Data.List.Perm.Subperm

/-!
# Records of distinct names

A list of pairs with distinct names is a record as it stands: reading it as one changes nothing.

* `Fields.get?_of_mem`, `Fields.mem_of_get?`, `Fields.get?_map` — the value under a name;
* `Fields.names_subset` — records with the same names;
* `Fields.Related` — records with the same names in the same order, and related values;
* `Fields.put_of_not_mem`, `Fields.ofPairs_eq_self` — building up a record name by name.
-/

namespace Crontab

namespace Fields

variable {α : Type}

/-- A new name is added at the end. -/
theorem put_of_not_mem {fields : Fields α} {name : String} (h : name ∉ fields.names) (value : α) :
    fields.put name value = fields ++ [(name, value)] := by
  induction fields with
  | nil => rfl
  | cons pair rest ih =>
    obtain ⟨key, old⟩ := pair
    rw [names, List.map_cons, List.mem_cons, not_or] at h
    rw [put, if_neg (Ne.symm h.1), ih h.2]
    rfl

/-- Of distinct names every one has its own value. -/
theorem get?_of_mem {fields : Fields α} (h : (names fields).Nodup) {name : String} {value : α}
    (hMem : (name, value) ∈ fields) : get? fields name = some value := by
  induction fields with
  | nil => cases hMem
  | cons field fields ih =>
    obtain ⟨key, old⟩ := field
    rw [names, List.map_cons, List.nodup_cons] at h
    rw [get?]
    rcases List.mem_cons.1 hMem with hEq | hMem
    · cases hEq
      rw [if_pos rfl]
    · have hName : name ∈ fields.map (·.1) := List.mem_map.2 ⟨_, hMem, rfl⟩
      have hNe : key ≠ name := by
        rintro rfl
        exact h.1 hName
      rw [if_neg hNe]
      exact ih h.2 hMem

/-- The value under a name is there under that name. -/
theorem mem_of_get? {fields : Fields α} {name : String} {value : α}
    (h : get? fields name = some value) : (name, value) ∈ fields := by
  induction fields with
  | nil => cases h
  | cons field fields ih =>
    obtain ⟨key, old⟩ := field
    rw [get?] at h
    split at h
    · next hKey =>
      rw [hKey, Option.some.inj h]
      exact List.mem_cons_self
    · exact List.mem_cons_of_mem _ (ih h)

/-- After the values are mapped, a name has the image of its value. -/
theorem get?_map {β : Type} (fields : Fields α) (f : String → α → β) (name : String) :
    get? (fields.map fun field => (field.1, f field.1 field.2)) name =
      (get? fields name).map (f name) := by
  induction fields with
  | nil => rfl
  | cons field fields ih =>
    obtain ⟨key, value⟩ := field
    rw [List.map_cons, get?, get?]
    by_cases hKey : key = name
    · rw [if_pos hKey, if_pos hKey, hKey]
      rfl
    · rw [if_neg hKey, if_neg hKey]
      exact ih

/-- There is a value under every name of a record. -/
theorem exists_get?_of_mem_names {fields : Fields α} {name : String} (h : name ∈ names fields) :
    ∃ value, get? fields name = some value := by
  induction fields with
  | nil => cases h
  | cons field fields ih =>
    obtain ⟨key, old⟩ := field
    rw [get?]
    split
    · exact ⟨old, rfl⟩
    · next hKey =>
      refine ih ?_
      rw [names, List.map_cons, List.mem_cons] at h
      exact h.resolve_left (Ne.symm hKey)

/-- A record of distinct names has all names of a record that is no longer, if that one has all of
its names. -/
theorem names_subset {fields others : Fields α} (h : (names fields).Nodup)
    (hLength : others.length ≤ fields.length) (hNames : names fields ⊆ names others) :
    names others ⊆ names fields := by
  have hPerm : (names fields).Perm (names others) := by
    refine (List.subperm_of_subset h hNames).perm_of_length_le ?_
    rwa [names, names, List.length_map, List.length_map]
  exact hPerm.symm.subset

/-- Pairs whose names are new and distinct are added at the end one after the other. -/
theorem foldl_put_append {front : Fields α} {pairs : List (String × α)}
    (h : (names (front ++ pairs)).Nodup) :
    pairs.foldl (fun fields pair => fields.put pair.1 pair.2) front = front ++ pairs := by
  induction pairs generalizing front with
  | nil => rw [List.append_nil, List.foldl_nil]
  | cons pair rest ih =>
    have hSplit : front ++ pair :: rest = (front ++ [(pair.1, pair.2)]) ++ rest := by simp
    have hNew : pair.1 ∉ names front := by
      rw [names, List.map_append, List.map_cons, List.nodup_append] at h
      intro hMem
      exact h.2.2 _ hMem _ (List.mem_cons_self) rfl
    rw [List.foldl_cons, put_of_not_mem hNew, ih (by rwa [← hSplit]), ← hSplit]

/-- **Records as they stand.** Pairs with distinct names are a record. -/
theorem ofPairs_eq_self {pairs : List (String × α)} (h : (names pairs).Nodup) :
    ofPairs pairs = pairs := by
  have hFold : ofPairs pairs = [] ++ pairs := foldl_put_append h
  rw [hFold, List.nil_append]

/-! ## Records side by side -/

section related

variable {β : Type} {R : α → β → Prop} {fields : Fields α} {others : Fields β} {name : String}

/-- The records have the same names in the same order, and related values. -/
def Related (R : α → β → Prop) (fields : Fields α) (others : Fields β) : Prop :=
  List.Forall₂ (fun field other => field.1 = other.1 ∧ R field.2 other.2) fields others

/-- Related records have the same names in the same order. -/
theorem Related.names_eq (h : Related R fields others) : names fields = names others := by
  induction h with
  | nil => rfl
  | @cons field other fields others hField _ ih =>
    rw [names, names, List.map_cons, List.map_cons, hField.1]
    exact congrArg (other.1 :: ·) ih

/-- The values under a name are related, or there is none in either record. -/
theorem Related.get? (h : Related R fields others) (name : String) :
    Option.Rel R (get? fields name) (get? others name) := by
  induction h with
  | nil => exact .none
  | @cons field other fields others hField _ ih =>
    obtain ⟨key, value⟩ := field
    obtain ⟨key', value'⟩ := other
    obtain ⟨rfl, hValue⟩ := hField
    rw [Fields.get?, Fields.get?]
    split
    · exact .some hValue
    · exact ih

/-- A value in one record has a related one under its name in the other. -/
theorem Related.exists_get? (h : Related R fields others) {value : α}
    (hValue : Fields.get? fields name = some value) :
    ∃ other, Fields.get? others name = some other ∧ R value other := by
  have hGet := h.get? name
  rw [hValue] at hGet
  generalize Fields.get? others name = found at hGet ⊢
  obtain hOther | _ := hGet
  exact ⟨_, rfl, hOther⟩

/-- Related records have the same names present. -/
theorem Related.has_eq (h : Related R fields others) (name : String) :
    has fields name = has others name := by
  have hGet : ∀ {a : Option α} {b : Option β}, Option.Rel R a b → a.isSome = b.isSome := by
    rintro _ _ (_ | _) <;> rfl
  exact hGet (h.get? name)

/-- Records stay related when a name is given related values in both. -/
theorem Related.put (h : Related R fields others) (name : String) {value : α} {other : β}
    (hValue : R value other) : Related R (put fields name value) (put others name other) := by
  induction h with
  | nil => exact .cons ⟨rfl, hValue⟩ .nil
  | @cons field field' fields others hField hRest ih =>
    obtain ⟨key, old⟩ := field
    obtain ⟨key', old'⟩ := field'
    obtain ⟨rfl, hOld⟩ := hField
    rw [Fields.put, Fields.put]
    split
    · exact .cons ⟨rfl, hValue⟩ hRest
    · exact .cons ⟨rfl, hOld⟩ ih

/-- Records stay related when a name is removed from both. -/
theorem Related.erase (h : Related R fields others) (name : String) :
    Related R (erase fields name) (erase others name) := by
  induction h with
  | nil => exact .nil
  | @cons field other fields others hField hRest ih =>
    rw [Fields.erase, Fields.erase, List.filter_cons, List.filter_cons, hField.1]
    split
    · exact .cons hField ih
    · exact ih

end related

/-! ## Names -/

section names

variable {fields : Fields α} {name : String} {value : α}

/-- What is there after a name is given a value is that value, or was there before. -/
theorem mem_put {field : String × α} (h : field ∈ put fields name value) :
    field = (name, value) ∨ field ∈ fields := by
  induction fields with
  | nil => exact .inl (List.mem_singleton.1 h)
  | cons own fields ih =>
    obtain ⟨key, old⟩ := own
    rw [put] at h
    split at h
    · next hKey =>
      rw [List.mem_cons, hKey] at h
      exact h.imp_right (List.mem_cons_of_mem _)
    · rw [List.mem_cons] at h ⊢
      rcases h with hOwn | hRest
      · exact .inr (.inl hOwn)
      · exact (ih hRest).imp_right .inr

/-- What is there after names are given values one by one was there before or is one of these. -/
theorem mem_foldl_put {field : String × α} {pairs : List (String × α)}
    (h : field ∈ pairs.foldl (fun fields pair => put fields pair.1 pair.2) fields) :
    field ∈ fields ∨ field ∈ pairs := by
  induction pairs generalizing fields with
  | nil => exact .inl h
  | cons pair pairs ih =>
    rw [List.mem_cons]
    rcases ih h with hPut | hRest
    · rcases mem_put hPut with hPair | hField
      · exact .inr (.inl hPair)
      · exact .inl hField
    · exact .inr (.inr hRest)

/-- The fields of the record of a list of pairs are among the pairs. -/
theorem mem_ofPairs {field : String × α} {pairs : List (String × α)} (h : field ∈ ofPairs pairs) :
    field ∈ pairs :=
  (mem_foldl_put h).resolve_left List.not_mem_nil

/-- The names after one is given a value are that one and those that were there. -/
theorem mem_names_put {other : String} (h : other ∈ names (put fields name value)) :
    other = name ∨ other ∈ names fields := by
  obtain ⟨field, hField, rfl⟩ := List.mem_map.1 h
  rcases mem_put hField with rfl | hField
  · exact .inl rfl
  · exact .inr (List.mem_map.2 ⟨field, hField, rfl⟩)

/-- Names stay distinct when one is given a value. -/
theorem nodup_names_put (h : (names fields).Nodup) (name : String) (value : α) :
    (names (put fields name value)).Nodup := by
  induction fields with
  | nil => exact List.nodup_cons.2 ⟨List.not_mem_nil, List.nodup_nil⟩
  | cons field fields ih =>
    obtain ⟨key, old⟩ := field
    rw [names, List.map_cons, List.nodup_cons] at h
    rw [put]
    split
    · exact List.nodup_cons.2 h
    · next hKey =>
      refine List.nodup_cons.2 ⟨fun hMem => ?_, ih h.2⟩
      rcases mem_names_put hMem with hName | hMem
      · exact hKey hName
      · exact h.1 hMem

/-- The names of the record of a list of pairs are distinct. -/
theorem nodup_names_ofPairs (pairs : List (String × α)) : (names (ofPairs pairs)).Nodup := by
  have hFold : ∀ fields : Fields α, (names fields).Nodup →
      (names (pairs.foldl (fun fields pair => put fields pair.1 pair.2) fields)).Nodup := by
    induction pairs with
    | nil => exact fun _ hFields => hFields
    | cons pair pairs ih => exact fun _ hFields => ih _ (nodup_names_put hFields _ _)
  exact hFold [] List.nodup_nil

/-- Names stay distinct when one is removed. -/
theorem nodup_names_erase (h : (names fields).Nodup) (name : String) :
    (names (erase fields name)).Nodup :=
  h.sublist (List.filter_sublist.map _)

end names

end Fields

end Crontab
