import Crontab.Config.Configuration
import Crontab.Proofs.Data.Fields
import Crontab.Proofs.Data.Outcomes

/-!
# Options one by one

Options are nested: two of them are parts that have options of their own.  A leaf is an option that
has none.  When a mapping is laid over options, every leaf for which the mapping supplies a value gets
that value in its converted form, and every other leaf keeps its own; a `null` supplies nothing.

* `Leaf`, `Leaf.all` — the leaves, with the conversions of their values;
* `get?_mergeFields` — what a name holds after mappings were merged;
* `Leaf.IsStable` — values that are their own converted form, as all values in force are;
* `Leaf.Takes` — what becomes of a leaf for which a value may be supplied;
* `takes_overlay` — what becomes of all leaves.
-/

namespace Crontab

/-! ## Leaves -/

/-- An option without options of its own: the part it belongs to, if any, its name, and the conversion
of given values. -/
structure Leaf where
  part? : Option String
  name : String
  coerce : Value → Except OptionFault Value

/-- The mapping of a part; an empty one if there is none under its name. -/
def partFields (fields : Fields Value) (part : String) : Fields Value :=
  match fields.get? part with
  | some (.mapping own) => own
  | _ => []

namespace Leaf

/-- A leaf that is a truth value. -/
def bool (part? : Option String) (name : String) : Leaf :=
  ⟨part?, name, fun value => (coerceBool value).map .bool⟩

/-- A leaf that is a text. -/
def text (part? : Option String) (name : String) : Leaf :=
  ⟨part?, name, fun value => (coerceText value).map .text⟩

/-- A leaf that is a text or `null`. -/
def textOrNull (part? : Option String) (name : String) : Leaf :=
  ⟨part?, name, fun value => (coerceOptional coerceText value).map Value.ofText?⟩

/-- A leaf that is an integer or `null`. -/
def intOrNull (part? : Option String) (name : String) : Leaf :=
  ⟨part?, name, fun value => (coerceOptional coerceInt value).map Value.ofInt?⟩

/-- A leaf that is the name of a kind of stores. -/
def kind (part? : Option String) (name : String) : Leaf :=
  ⟨part?, name, fun value => (coerceKind value).map fun kind => .text kind.name⟩

/-- The leaves of the module options themselves. -/
def ofModule : List Leaf :=
  [bool none "server_tasks", textOrNull none "tasks_dir"]

/-- The leaves of the storage options. -/
def ofStorage : List Leaf :=
  [kind (some "storage") "type", text (some "storage") "prefix", text (some "storage") "redis_url",
   textOrNull (some "storage") "redis_password", intOrNull (some "storage") "redis_db",
   text (some "storage") "database_url", bool (some "storage") "database_echo"]

/-- The leaves of the time zone options. -/
def ofTimezone : List Leaf :=
  [text (some "timezone") "type", bool (some "timezone") "validate",
   bool (some "timezone") "strict"]

/-- All leaves. -/
def all : List Leaf :=
  ofModule ++ ofStorage ++ ofTimezone

/-- The mapping in which a leaf is looked for. -/
def place (leaf : Leaf) (fields : Fields Value) : Fields Value :=
  match leaf.part? with
  | none => fields
  | some part => partFields fields part

/-- The value of a leaf in a mapping. -/
def get? (leaf : Leaf) (fields : Fields Value) : Option Value :=
  (leaf.place fields).get? leaf.name

end Leaf

/-- The value that a mapping supplies for a name; `null` is none. -/
def supplied? (fields : Fields Value) (name : String) : Option Value :=
  (fields.get? name).filter (!·.isNull)

/-- The value that a mapping supplies for a leaf. -/
def Leaf.supplied? (leaf : Leaf) (given : Value) : Option Value :=
  match given with
  | .mapping fields => Crontab.supplied? (leaf.place fields) leaf.name
  | _ => none

/-! ## Merged mappings -/

section merged

variable {defaults overrides : Fields Value} {name : String}

/-- **Merged mappings.** A name holds what is supplied for it, merged with what it held, and what it
held if nothing is supplied. -/
theorem get?_mergeFields (hNames : (Fields.names overrides).Nodup) :
    Fields.get? (mergeFields defaults overrides) name =
      match supplied? overrides name with
      | some value => some (mergeValue (defaults.get? name) value)
      | none => defaults.get? name := by
  induction overrides generalizing defaults with
  | nil =>
    rw [mergeFields]
    rfl
  | cons field rest ih =>
    obtain ⟨key, value⟩ := field
    obtain ⟨hKey, hRest⟩ := List.nodup_cons.1 hNames
    by_cases hName : key = name
    · subst hName
      -- The rest says nothing more about the name.
      have hAbsent : supplied? rest key = none := by
        cases hGet : Fields.get? rest key with
        | none => rw [supplied?, hGet]; rfl
        | some other => exact absurd (List.mem_map_of_mem (Fields.mem_of_get? hGet)) hKey
      by_cases hNull : value.isNull = true
      · rw [mergeFields, if_pos hNull, ih hRest, hAbsent]
        simp [supplied?, Fields.get?, Option.filter, hNull]
      · rw [mergeFields, if_neg hNull, ih hRest, hAbsent]
        simp [supplied?, Fields.get?, Fields.get?_put, Option.filter, hNull]
    · have hSame : supplied? ((key, value) :: rest) name = supplied? rest name := by
        rw [supplied?, Fields.get?, if_neg hName, supplied?]
      rw [hSame, mergeFields]
      split
      · exact ih hRest
      · rw [ih hRest, Fields.get?_put, if_neg hName]

/-- What was no mapping is replaced as a whole. -/
theorem mergeValue_of_not_mapping {old : Option Value} (h : ∀ fields, old ≠ some (.mapping fields))
    (value : Value) : mergeValue old value = value := by
  cases value with
  | mapping fields =>
    rw [mergeValue]
    intro own hOld
    exact h own hOld
  | _ => rw [mergeValue]; simp

end merged

/-! ## Values in force -/

namespace Leaf

/-- The value of the leaf is no mapping, and its own converted form. -/
def IsStable (leaf : Leaf) (fields : Fields Value) : Prop :=
  ∃ value, fields.get? leaf.name = some value ∧ (∀ own, value ≠ .mapping own) ∧
    leaf.coerce value = .ok value

/-- If a mapping has a value for the leaf, the leaf has its converted form in another mapping. -/
def IsReadFrom (leaf : Leaf) (given fields : Fields Value) : Prop :=
  ∀ value, given.get? leaf.name = some value →
    ∃ out, leaf.coerce value = .ok out ∧ fields.get? leaf.name = some out

/-- What becomes of the leaf: the converted form of the value that is supplied, or what it was. -/
def Takes (leaf : Leaf) (before supplied after : Option Value) : Prop :=
  ∃ out, after = some out ∧
    match supplied with
    | some value => leaf.coerce value = .ok out
    | none => before = some out

/-- What becomes of a leaf when a mapping is merged with the values in force and the result is
read. -/
theorem takes_of_isReadFrom {leaf : Leaf} {base given fields : Fields Value}
    (hNames : (Fields.names given).Nodup) (hBase : leaf.IsStable base)
    (hRead : leaf.IsReadFrom (mergeFields base given) fields) :
    leaf.Takes (base.get? leaf.name) (Crontab.supplied? given leaf.name)
      (fields.get? leaf.name) := by
  obtain ⟨old, hOld, hPlain, hStable⟩ := hBase
  have hMerged := @get?_mergeFields base given leaf.name hNames
  cases hSupplied : Crontab.supplied? given leaf.name with
  | some value =>
    have hReplaced : mergeValue (base.get? leaf.name) value = value := by
      refine mergeValue_of_not_mapping ?_ value
      intro own hOwn
      exact hPlain own (Option.some.inj (hOld.symm.trans hOwn))
    rw [hSupplied] at hMerged
    simp only [hReplaced] at hMerged
    obtain ⟨out, hOut, hAfter⟩ := hRead value hMerged
    exact ⟨out, hAfter, hOut⟩
  | none =>
    rw [hSupplied] at hMerged
    obtain ⟨out, hOut, hAfter⟩ := hRead old (hMerged.trans hOld)
    obtain rfl := Except.ok.inj (hStable.symm.trans hOut)
    exact ⟨old, hAfter, hOld⟩

/-! ### Stability -/

section stable

variable {part? : Option String} {name : String} {fields : Fields Value}

/-- A truth value is its own converted form. -/
theorem isStable_bool {b : Bool} (h : fields.get? name = some (.bool b)) :
    (bool part? name).IsStable fields :=
  ⟨_, h, nofun, rfl⟩

/-- A text is its own converted form. -/
theorem isStable_text {s : String} (h : fields.get? name = some (.text s)) :
    (text part? name).IsStable fields :=
  ⟨_, h, nofun, rfl⟩

/-- A text or `null` is its own converted form. -/
theorem isStable_textOrNull {s? : Option String} (h : fields.get? name = some (Value.ofText? s?)) :
    (textOrNull part? name).IsStable fields := by
  cases s? with
  | none => exact ⟨_, h, nofun, rfl⟩
  | some s => exact ⟨_, h, nofun, rfl⟩

/-- An integer or `null` is its own converted form. -/
theorem isStable_intOrNull {n? : Option Int} (h : fields.get? name = some (Value.ofInt? n?)) :
    (intOrNull part? name).IsStable fields := by
  cases n? with
  | none => exact ⟨_, h, nofun, rfl⟩
  | some n => exact ⟨_, h, nofun, rfl⟩

/-- The name of a kind of stores is its own converted form. -/
theorem isStable_kind {k : StorageKind} (h : fields.get? name = some (.text k.name)) :
    (kind part? name).IsStable fields := by
  refine ⟨_, h, nofun, ?_⟩
  cases k <;> rfl

end stable

/-- The module options in force are stable. -/
theorem isStable_ofModule (options : ModuleOptions) :
    ∀ leaf ∈ ofModule, leaf.IsStable options.toFields := by
  simp only [ofModule, List.forall_mem_cons]
  exact ⟨isStable_bool rfl, isStable_textOrNull rfl, List.forall_mem_nil _⟩

/-- The storage options in force are stable. -/
theorem isStable_ofStorage (options : StorageOptions) :
    ∀ leaf ∈ ofStorage, leaf.IsStable options.toFields := by
  simp only [ofStorage, List.forall_mem_cons]
  exact ⟨isStable_kind rfl, isStable_text rfl, isStable_text rfl, isStable_textOrNull rfl,
    isStable_intOrNull rfl, isStable_text rfl, isStable_bool rfl, List.forall_mem_nil _⟩

/-- The time zone options in force are stable. -/
theorem isStable_ofTimezone (options : TimezoneOptions) :
    ∀ leaf ∈ ofTimezone, leaf.IsStable options.toFields := by
  simp only [ofTimezone, List.forall_mem_cons]
  exact ⟨isStable_text rfl, isStable_bool rfl, isStable_bool rfl, List.forall_mem_nil _⟩

/-! ### Reading -/

end Leaf

/-- Two checks have a pair of results exactly when each of them has its own. -/
theorem Checked.both_eq_ok {α β : Type} {x : Checked α} {y : Checked β} {a : α} {b : β} :
    x.both y = .ok (a, b) ↔ x = .ok a ∧ y = .ok b := by
  cases x <;> cases y <;> simp [Checked.both]

/-- Placing the faults of a check under a name does not change its result. -/
theorem Checked.under_eq_ok {α : Type} {x : Checked α} {name : String} {a : α} :
    x.under name = .ok a ↔ x = .ok a := by
  cases x <;> simp [Checked.under]

/-- A field that is given is read as its converted form. -/
theorem checkField_eq_ok {α : Type} {fields : Fields Value} {name : String}
    {coerce : Value → Except OptionFault α} {found : Option α} {value : Value}
    (h : checkField fields name coerce = .ok found) (hValue : fields.get? name = some value) :
    ∃ a, coerce value = .ok a ∧ found = some a := by
  rw [checkField, hValue] at h
  dsimp only at h
  cases hCoerce : coerce value with
  | ok a =>
    rw [hCoerce] at h
    exact ⟨a, rfl, (Except.ok.inj h).symm⟩
  | error fault =>
    rw [hCoerce] at h
    cases h

/-- A part that is given is read as its converted form. -/
theorem checkPart_eq_ok {α : Type} {fields : Fields Value} {name : String}
    {convert : Value → Checked α} {found : Option α} {value : Value}
    (h : checkPart fields name convert = .ok found) (hValue : fields.get? name = some value) :
    ∃ a, convert value = .ok a ∧ found = some a := by
  rw [checkPart, hValue] at h
  obtain ⟨a, hConvert, hFound⟩ := map_eq_ok.1 h
  exact ⟨a, Checked.under_eq_ok.1 hConvert, hFound.symm⟩

namespace Leaf

/-- A leaf whose field is checked is read from the mapping. -/
theorem isReadFrom_of_checkField {α : Type} {part? : Option String} {name : String}
    {given fields : Fields Value} {coerce : Value → Except OptionFault α} {toValue : α → Value}
    {found : Option α} (h : checkField given name coerce = .ok found)
    (hFields : ∀ a, found = some a → fields.get? name = some (toValue a)) :
    IsReadFrom ⟨part?, name, fun value => (coerce value).map toValue⟩ given fields := by
  intro value hValue
  obtain ⟨a, hCoerce, hFound⟩ := checkField_eq_ok h hValue
  exact ⟨toValue a, map_eq_ok.2 ⟨a, hCoerce, rfl⟩, hFields a hFound⟩

/-- Storage options hold the converted values of the mapping they are read from. -/
theorem isReadFrom_ofStorage {given : Fields Value} {patch : StoragePatch}
    (h : StoragePatch.ofFields given = .ok patch) :
    ∀ leaf ∈ ofStorage, leaf.IsReadFrom given patch.fill.toFields := by
  simp only [StoragePatch.ofFields, map_eq_ok, Prod.exists, Checked.both_eq_ok] at h
  obtain ⟨kind, keyPrefix, redisUrl, redisPassword, redisDb, databaseUrl, databaseEcho,
    ⟨hKind, hPrefix, hUrl, hPassword, hDb, hDatabase, hEcho⟩, rfl⟩ := h
  simp only [ofStorage, List.forall_mem_cons]
  refine ⟨isReadFrom_of_checkField hKind ?_, isReadFrom_of_checkField hPrefix ?_,
    isReadFrom_of_checkField hUrl ?_, isReadFrom_of_checkField hPassword ?_,
    isReadFrom_of_checkField hDb ?_, isReadFrom_of_checkField hDatabase ?_,
    isReadFrom_of_checkField hEcho ?_, List.forall_mem_nil _⟩
  all_goals
    rintro found rfl
    rfl

/-- The short name of the flag for validation is the one that counts. -/
theorem isReadFrom_ofTimezone {given : Fields Value} {patch : TimezonePatch}
    (h : TimezonePatch.ofFields given = .ok patch) (hValidate : given.has "validate" = true) :
    ∀ leaf ∈ ofTimezone, leaf.IsReadFrom given patch.fill.toFields := by
  simp only [TimezonePatch.ofFields, map_eq_ok, Prod.exists, Checked.both_eq_ok, checkValidate,
    if_pos hValidate] at h
  obtain ⟨zone, validate, strict, ⟨⟨hZone, hFlag⟩, hStrict⟩, rfl⟩ := h
  simp only [ofTimezone, List.forall_mem_cons]
  refine ⟨isReadFrom_of_checkField hZone ?_, isReadFrom_of_checkField hFlag ?_,
    isReadFrom_of_checkField hStrict ?_, List.forall_mem_nil _⟩
  all_goals
    rintro found rfl
    rfl

/-- Module options hold the converted values of the mapping they are read from. -/
theorem isReadFrom_ofModule {given : Fields Value} {patch : ModulePatch}
    (h : ModulePatch.ofFields given = .ok patch) :
    ∀ leaf ∈ ofModule, leaf.IsReadFrom given patch.fill.toFields := by
  simp only [ModulePatch.ofFields, map_eq_ok, Prod.exists, Checked.both_eq_ok] at h
  obtain ⟨serverTasks, tasksDir, storage, timezone, ⟨hTasks, hDir, -, -⟩, rfl⟩ := h
  simp only [ofModule, List.forall_mem_cons]
  refine ⟨isReadFrom_of_checkField hTasks ?_, isReadFrom_of_checkField hDir ?_,
    List.forall_mem_nil _⟩
  all_goals
    rintro found rfl
    rfl

end Leaf

/-- The storage options of module options are read from what is under their name. -/
theorem ModulePatch.storage_of_ofFields {given : Fields Value} {patch : ModulePatch}
    (h : ModulePatch.ofFields given = .ok patch) {value : Value}
    (hValue : given.get? "storage" = some value) :
    ∃ part, StoragePatch.ofValue value = .ok part ∧ patch.fill.storage = part.fill := by
  simp only [ModulePatch.ofFields, map_eq_ok, Prod.exists, Checked.both_eq_ok] at h
  obtain ⟨_, _, _, _, ⟨-, -, hStorage, -⟩, rfl⟩ := h
  obtain ⟨part, hPart, rfl⟩ := checkPart_eq_ok hStorage hValue
  exact ⟨part, hPart, rfl⟩

/-- The time zone options of module options are read from what is under their name. -/
theorem ModulePatch.timezone_of_ofFields {given : Fields Value} {patch : ModulePatch}
    (h : ModulePatch.ofFields given = .ok patch) {value : Value}
    (hValue : given.get? "timezone" = some value) :
    ∃ part, TimezonePatch.ofValue value = .ok part ∧ patch.fill.timezone = part.fill := by
  simp only [ModulePatch.ofFields, map_eq_ok, Prod.exists, Checked.both_eq_ok] at h
  obtain ⟨_, _, _, _, ⟨-, -, -, hTimezone⟩, rfl⟩ := h
  obtain ⟨part, hPart, rfl⟩ := checkPart_eq_ok hTimezone hValue
  exact ⟨part, hPart, rfl⟩

/-! ## Plain mappings -/

/-- What a plain mapping may hold in place of a part: no options that were converted before, and no
name twice. -/
def Value.IsPlainPart : Value → Prop
  | .mapping fields => (Fields.names fields).Nodup
  | .timezoneOptions _ | .storageOptions _ => False
  | _ => True

/-- A plain mapping of module options: no name twice, and plain parts. -/
structure ArePlainOptions (fields : Fields Value) : Prop where
  names : (Fields.names fields).Nodup
  parts : ∀ part ∈ ["storage", "timezone"], ∀ value, fields.get? part = some value →
    value.IsPlainPart

section plain

variable {fields base : Fields Value} {part : String}

/-- The names of a plain part are distinct. -/
theorem nodup_names_partFields (h : ∀ value, fields.get? part = some value → value.IsPlainPart) :
    (Fields.names (partFields fields part)).Nodup := by
  unfold partFields
  split
  · next own hOwn => exact h _ hOwn
  · exact List.nodup_nil

/-- Of the plain values that are merged with a mapping only mappings can be read as a part. -/
theorem merged_part {α : Type} {convert : Value → Checked α} {own : Fields Value} {merged : Value}
    {a : α} (hConvert : ∀ value a, value.IsPlainPart → convert value = .ok a →
      ∃ fields, value = .mapping fields)
    (hNames : (Fields.names fields).Nodup)
    (hPlain : ∀ value, fields.get? part = some value → value.IsPlainPart)
    (hBase : base.get? part = some (.mapping own))
    (hMerged : Fields.get? (mergeFields base fields) part = some merged)
    (h : convert merged = .ok a) : merged = .mapping (mergeFields own (partFields fields part)) := by
  rw [get?_mergeFields hNames, hBase] at hMerged
  unfold partFields
  cases hValue : fields.get? part with
  | none =>
    simp only [supplied?, hValue, Option.filter_none, Option.some.injEq] at hMerged
    rw [← hMerged, mergeFields]
  | some value =>
    by_cases hNull : value.isNull = true
    · simp only [supplied?, hValue, Option.filter, hNull, Bool.not_true, Bool.false_eq_true,
        if_false, Option.some.injEq] at hMerged
      cases value with
      | null => rw [← hMerged, mergeFields]
      | _ => cases hNull
    · simp only [supplied?, hValue, Option.filter, hNull, Bool.not_false, if_true,
        Option.some.injEq] at hMerged
      subst hMerged
      cases value with
      | mapping given => rw [mergeValue]
      | _ =>
        simp only [mergeValue] at h
        obtain ⟨given, hGiven⟩ := hConvert _ a (hPlain _ hValue) h
        cases hGiven

end plain

/-- A plain part that is read as storage options is a mapping. -/
theorem mapping_of_storageOfValue {value : Value} {patch : StoragePatch} (hPlain : value.IsPlainPart)
    (h : StoragePatch.ofValue value = .ok patch) : ∃ fields, value = .mapping fields := by
  cases value with
  | mapping fields => exact ⟨fields, rfl⟩
  | storageOptions given => exact hPlain.elim
  | _ => cases h

/-- A plain part that is read as time zone options is a mapping. -/
theorem mapping_of_timezoneOfValue {value : Value} {patch : TimezonePatch}
    (hPlain : value.IsPlainPart) (h : TimezonePatch.ofValue value = .ok patch) :
    ∃ fields, value = .mapping fields := by
  cases value with
  | mapping fields => exact ⟨fields, rfl⟩
  | timezoneOptions given => exact hPlain.elim
  | _ => cases h

/-! ## Overlays -/

/-- A name that is in force is still there after a merger. -/
theorem exists_get?_mergeFields {base fields : Fields Value} {name : String} {old : Value}
    (hNames : (Fields.names fields).Nodup) (hOld : base.get? name = some old) :
    ∃ value, Fields.get? (mergeFields base fields) name = some value := by
  rw [get?_mergeFields hNames, hOld]
  cases supplied? fields name with
  | none => exact ⟨old, rfl⟩
  | some value => exact ⟨_, rfl⟩

section overlay

variable {base options : ModuleOptions} {fields : Fields Value} {patch : ModulePatch} {leaf : Leaf}

/-- The leaves of the module options belong to no part. -/
theorem part?_of_mem_ofModule (h : leaf ∈ Leaf.ofModule) : leaf.part? = none := by
  revert leaf
  simp [Leaf.ofModule, Leaf.bool, Leaf.textOrNull]

/-- The leaves of the storage options belong to the part for storage. -/
theorem part?_of_mem_ofStorage (h : leaf ∈ Leaf.ofStorage) : leaf.part? = some "storage" := by
  revert leaf
  simp [Leaf.ofStorage, Leaf.kind, Leaf.text, Leaf.bool, Leaf.textOrNull, Leaf.intOrNull]

/-- The leaves of the time zone options belong to the part for time zones. -/
theorem part?_of_mem_ofTimezone (h : leaf ∈ Leaf.ofTimezone) : leaf.part? = some "timezone" := by
  revert leaf
  simp [Leaf.ofTimezone, Leaf.text, Leaf.bool]

/-- What becomes of the leaves of the storage options. -/
theorem takes_ofStorage (hPlain : ArePlainOptions fields)
    (h : ModulePatch.ofFields (mergeFields base.toFields fields) = .ok patch)
    (hLeaf : leaf ∈ Leaf.ofStorage) :
    leaf.Takes (leaf.get? base.toFields) (leaf.supplied? (.mapping fields))
      (leaf.get? patch.fill.toFields) := by
  have hOwn := hPlain.parts "storage" (by simp)
  have hBase : base.toFields.get? "storage" = some (.mapping base.storage.toFields) := rfl
  obtain ⟨value, hValue⟩ := exists_get?_mergeFields hPlain.names hBase
  obtain ⟨part, hPart, hFill⟩ := ModulePatch.storage_of_ofFields h hValue
  obtain rfl := merged_part (fun _ _ => mapping_of_storageOfValue) hPlain.names hOwn hBase hValue
    hPart
  have hTakes := Leaf.takes_of_isReadFrom (nodup_names_partFields hOwn)
    (Leaf.isStable_ofStorage base.storage leaf hLeaf) (Leaf.isReadFrom_ofStorage hPart leaf hLeaf)
  have hAfter : partFields patch.fill.toFields "storage" = part.fill.toFields := by
    rw [← hFill]
    rfl
  simp only [Leaf.get?, Leaf.supplied?, Leaf.place, part?_of_mem_ofStorage hLeaf, hAfter]
  exact hTakes

/-- What becomes of the leaves of the time zone options. -/
theorem takes_ofTimezone (hPlain : ArePlainOptions fields)
    (h : ModulePatch.ofFields (mergeFields base.toFields fields) = .ok patch)
    (hLeaf : leaf ∈ Leaf.ofTimezone) :
    leaf.Takes (leaf.get? base.toFields) (leaf.supplied? (.mapping fields))
      (leaf.get? patch.fill.toFields) := by
  have hOwn := hPlain.parts "timezone" (by simp)
  have hNames := nodup_names_partFields hOwn
  have hBase : base.toFields.get? "timezone" = some (.mapping base.timezone.toFields) := rfl
  obtain ⟨value, hValue⟩ := exists_get?_mergeFields hPlain.names hBase
  obtain ⟨part, hPart, hFill⟩ := ModulePatch.timezone_of_ofFields h hValue
  obtain rfl := merged_part (fun _ _ => mapping_of_timezoneOfValue) hPlain.names hOwn hBase hValue
    hPart
  -- The flag for validation is in force under its short name, which therefore counts.
  have hValidate : Fields.has (mergeFields base.timezone.toFields (partFields fields "timezone"))
      "validate" = true := by
    have hOld : base.timezone.toFields.get? "validate" = some (.bool base.timezone.validate) := rfl
    obtain ⟨flag, hFlag⟩ := exists_get?_mergeFields hNames hOld
    rw [Fields.has, hFlag]
    rfl
  have hTakes := Leaf.takes_of_isReadFrom hNames
    (Leaf.isStable_ofTimezone base.timezone leaf hLeaf)
    (Leaf.isReadFrom_ofTimezone hPart hValidate leaf hLeaf)
  have hAfter : partFields patch.fill.toFields "timezone" = part.fill.toFields := by
    rw [← hFill]
    rfl
  simp only [Leaf.get?, Leaf.supplied?, Leaf.place, part?_of_mem_ofTimezone hLeaf, hAfter]
  exact hTakes

/-- Complete options are read from a patch. -/
theorem completeOptions_eq_ok (h : completeOptions fields = .ok options) :
    ∃ patch, ModulePatch.ofFields fields = .ok patch ∧ options = patch.fill := by
  rw [completeOptions] at h
  split at h
  · next patch hPatch => exact ⟨patch, hPatch, (Except.ok.inj h).symm⟩
  · cases h

/-- **Overlays.** When a plain mapping is laid over options, every leaf takes the value that is supplied
for it, and every other one stays as it was. -/
theorem takes_overlay {config : Configuration} (hPlain : ArePlainOptions fields)
    (h : Configuration.overlay base (.mapping fields) = .ok config) :
    ∀ leaf ∈ Leaf.all,
      leaf.Takes (leaf.get? base.toFields) (leaf.supplied? (.mapping fields))
        (leaf.get? config.options.toFields) := by
  simp only [Configuration.overlay, bind_eq_ok] at h
  obtain ⟨own, hFields, options, hOptions, hConfig⟩ := h
  obtain rfl := Except.ok.inj hConfig
  obtain rfl := Except.ok.inj hFields
  obtain ⟨patch, hPatch, rfl⟩ := completeOptions_eq_ok hOptions
  simp only [Leaf.all, List.mem_append]
  rintro leaf ((hLeaf | hLeaf) | hLeaf)
  · have hTakes := Leaf.takes_of_isReadFrom hPlain.names (Leaf.isStable_ofModule base leaf hLeaf)
      (Leaf.isReadFrom_ofModule hPatch leaf hLeaf)
    simp only [Leaf.get?, Leaf.supplied?, Leaf.place, part?_of_mem_ofModule hLeaf]
    exact hTakes
  · exact takes_ofStorage hPlain hPatch hLeaf
  · exact takes_ofTimezone hPlain hPatch hLeaf

/-- A plain mapping that cannot be laid over options has faults. -/
theorem overlay_eq_error {error : ConfigError}
    (h : Configuration.overlay base (.mapping fields) = .error error) :
    ∃ faults, error = .faults faults := by
  have hComplete : completeOptions (mergeFields base.toFields fields) = .error error := by
    cases hOptions : completeOptions (mergeFields base.toFields fields) with
    | ok options =>
      simp only [Configuration.overlay, partialFields, ok_bind, hOptions] at h
      cases h
    | error cause =>
      simp only [Configuration.overlay, partialFields, ok_bind, hOptions] at h
      obtain rfl := Except.error.inj h
      rfl
  rw [completeOptions] at hComplete
  split at hComplete
  · cases hComplete
  · next faults _ => exact ⟨faults, (Except.error.inj hComplete).symm⟩

end overlay

end Crontab
