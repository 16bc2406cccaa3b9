import Crontab.Proofs.Config.Leaves

/-!
# Patches over options

Partial options come as a mapping or as options that were converted before.  Either way they are laid
over a mapping of all options and the result is read, and what is read is told here without reading
anything: the patch with the options in force where it leaves them open.

* `StoragePatch.laidOver`, `TimezonePatch.laidOver`, `ModulePatch.laidOver` — patches over options;
* `ModulePatch.ofFields_toFields` — a patch is read from its own mapping;
* `ModuleOptions.under` — options under a mapping, which may hold parts that were converted before;
* `overlay_mapping`, `overlay_moduleOptions` — what is read after the two are laid over options.
-/

namespace Crontab

/-! ## Patches over options -/

/-- The time zone options with those of a patch in their place. -/
def TimezonePatch.laidOver (patch : TimezonePatch) (base : TimezoneOptions) : TimezoneOptions :=
  ⟨patch.zone.getD base.zone, patch.validate.getD base.validate, patch.strict.getD base.strict⟩

/-- The storage options with those of a patch in their place; a `null` leaves an option as it is. -/
def StoragePatch.laidOver (patch : StoragePatch) (base : StorageOptions) : StorageOptions :=
  ⟨patch.kind.getD base.kind, patch.keyPrefix.getD base.keyPrefix, patch.redisUrl.getD base.redisUrl,
   patch.redisPassword.join.or base.redisPassword, patch.redisDb.join.or base.redisDb,
   patch.databaseUrl.getD base.databaseUrl, patch.databaseEcho.getD base.databaseEcho⟩

/-- The module options with those of a patch in their place; a `null` leaves an option as it is. -/
def ModulePatch.laidOver (patch : ModulePatch) (base : ModuleOptions) : ModuleOptions :=
  ⟨patch.serverTasks.getD base.serverTasks, patch.tasksDir.join.or base.tasksDir,
   (patch.storage.getD {}).laidOver base.storage, (patch.timezone.getD {}).laidOver base.timezone⟩

/-- A patch laid over the default options is the patch filled up with defaults. -/
theorem TimezonePatch.laidOver_default (patch : TimezonePatch) :
    patch.laidOver ModuleOptions.default.timezone = patch.fill := rfl

/-- Over the defaults a `null` is the default. -/
theorem StoragePatch.laidOver_default (patch : StoragePatch) :
    patch.laidOver ModuleOptions.default.storage = patch.fill := by
  have hNull : ∀ {α : Type} (given : Option (Option α)), given.join.or none = given.getD none := by
    intro α given
    rcases given with _ | _ | a <;> rfl
  have hPassword : ModuleOptions.default.storage.redisPassword = none := rfl
  have hDb : ModuleOptions.default.storage.redisDb = none := rfl
  rw [laidOver, hPassword, hDb, hNull, hNull]
  rfl

/-! ## Patches as mappings -/

section given

variable {α : Type} {name key : String} {toValue : α → Value} {given : Option α}

/-- A field that is given comes before all others of its name. -/
theorem get?_givenField_append (rest : Fields Value) :
    Fields.get? (givenField name toValue given ++ rest) key =
      if name = key then (given.map toValue).or (Fields.get? rest key) else Fields.get? rest key := by
  cases given with
  | none =>
    simp only [givenField, List.nil_append, Option.map_none, Option.none_or, ite_self]
  | some a =>
    simp only [givenField, List.cons_append, List.nil_append, Fields.get?, Option.map_some,
      Option.some_or]

/-- A field is there under its own name if it is given, and under no other. -/
theorem get?_givenField :
    Fields.get? (givenField name toValue given) key =
      if name = key then given.map toValue else none := by
  have hAppend := @get?_givenField_append α name key toValue given []
  rwa [List.append_nil, Fields.get?, Option.or_none] at hAppend

/-- What is given is read as it was before it was written. -/
theorem checkField_of_map {fields : Fields Value} {coerce : Value → Except OptionFault α}
    (hCoerce : ∀ a, coerce (toValue a) = .ok a) (h : fields.get? name = given.map toValue) :
    checkField fields name coerce = .ok given := by
  rw [checkField, h]
  cases given with
  | none => rfl
  | some a => simp only [Option.map_some, hCoerce]

end given

theorem coerceBool_bool (b : Bool) : coerceBool (.bool b) = .ok b := rfl

theorem coerceText_text (s : String) : coerceText (.text s) = .ok s := rfl

/-- A text that may be left out is converted to itself. -/
theorem coerceOptional_ofText? (s? : Option String) :
    coerceOptional coerceText (Value.ofText? s?) = .ok s? := by
  cases s? <;> rfl

/-- An integer that may be left out is converted to itself. -/
theorem coerceOptional_ofInt? (n? : Option Int) :
    coerceOptional coerceInt (Value.ofInt? n?) = .ok n? := by
  cases n? <;> rfl

/-- The name of a kind of stores is converted to that kind. -/
theorem coerceKind_name (kind : StorageKind) : coerceKind (.text kind.name) = .ok kind := by
  cases kind <;> rfl

theorem coerceBool_null (b : Bool) : coerceBool .null ≠ .ok b := nofun

theorem coerceText_null (s : String) : coerceText .null ≠ .ok s := nofun

theorem coerceKind_null (kind : StorageKind) : coerceKind .null ≠ .ok kind := nofun

theorem bool_ne_mapping (b : Bool) (own : Fields Value) : Value.bool b ≠ .mapping own := nofun

theorem text_ne_mapping (s : String) (own : Fields Value) : Value.text s ≠ .mapping own := nofun

theorem ofText?_ne_mapping (s? : Option String) (own : Fields Value) :
    Value.ofText? s? ≠ .mapping own := by
  cases s? <;> nofun

theorem ofInt?_ne_mapping (n? : Option Int) (own : Fields Value) : Value.ofInt? n? ≠ .mapping own := by
  cases n? <;> nofun

/-- The flag for validation is written under its short name. -/
theorem TimezonePatch.get?_validate_toFields (patch : TimezonePatch) :
    Fields.get? patch.toFields "validate" = patch.validate.map .bool := by
  simp [toFields, get?_givenField_append, get?_givenField]

/-- The storage options of a patch are written as a mapping. -/
theorem ModulePatch.get?_storage_toFields (patch : ModulePatch) :
    Fields.get? patch.toFields "storage" = patch.storage.map fun part => .mapping part.toFields := by
  simp [toFields, get?_givenField_append, get?_givenField]

/-- The time zone options of a patch are written as a mapping. -/
theorem ModulePatch.get?_timezone_toFields (patch : ModulePatch) :
    Fields.get? patch.toFields "timezone" = patch.timezone.map fun part => .mapping part.toFields := by
  simp [toFields, get?_givenField_append, get?_givenField]

/-- Time zone options that were converted before are read from their mapping. -/
theorem TimezonePatch.ofFields_toFields (patch : TimezonePatch) :
    TimezonePatch.ofFields patch.toFields = .ok patch := by
  have hZone : Fields.get? patch.toFields "type" = patch.zone.map .text := by
    simp [toFields, get?_givenField_append, get?_givenField]
  have hFlag := patch.get?_validate_toFields
  have hLong : Fields.get? patch.toFields "validate_timezone" = none := by
    simp [toFields, get?_givenField_append, get?_givenField]
  have hStrict : Fields.get? patch.toFields "strict" = patch.strict.map .bool := by
    simp [toFields, get?_givenField_append, get?_givenField]
  have hValidate : checkValidate patch.toFields = .ok patch.validate := by
    rw [checkValidate, Fields.has, hFlag]
    cases hGiven : patch.validate with
    | none => exact checkField_of_map coerceBool_bool hLong
    | some flag =>
      rw [hGiven] at hFlag
      exact checkField_of_map coerceBool_bool hFlag
  rw [ofFields, checkField_of_map coerceText_text hZone, hValidate,
    checkField_of_map coerceBool_bool hStrict]
  rfl

/-- Storage options that were converted before are read from their mapping. -/
theorem StoragePatch.ofFields_toFields (patch : StoragePatch) :
    StoragePatch.ofFields patch.toFields = .ok patch := by
  have hKind : Fields.get? patch.toFields "type" = patch.kind.map fun kind => .text kind.name := by
    simp [toFields, get?_givenField_append, get?_givenField]
  have hPrefix : Fields.get? patch.toFields "prefix" = patch.keyPrefix.map .text := by
    simp [toFields, get?_givenField_append, get?_givenField]
  have hUrl : Fields.get? patch.toFields "redis_url" = patch.redisUrl.map .text := by
    simp [toFields, get?_givenField_append, get?_givenField]
  have hPassword : Fields.get? patch.toFields "redis_password" =
      patch.redisPassword.map Value.ofText? := by
    simp [toFields, get?_givenField_append, get?_givenField]
  have hDb : Fields.get? patch.toFields "redis_db" = patch.redisDb.map Value.ofInt? := by
    simp [toFields, get?_givenField_append, get?_givenField]
  have hDatabase : Fields.get? patch.toFields "database_url" = patch.databaseUrl.map .text := by
    simp [toFields, get?_givenField_append, get?_givenField]
  have hEcho : Fields.get? patch.toFields "database_echo" = patch.databaseEcho.map .bool := by
    simp [toFields, get?_givenField_append, get?_givenField]
  rw [ofFields, checkField_of_map coerceKind_name hKind, checkField_of_map coerceText_text hPrefix,
    checkField_of_map coerceText_text hUrl, checkField_of_map coerceOptional_ofText? hPassword,
    checkField_of_map coerceOptional_ofInt? hDb, checkField_of_map coerceText_text hDatabase,
    checkField_of_map coerceBool_bool hEcho]
  rfl

/-- A part that is given is read as it was before it was written. -/
theorem checkPart_of_map {α : Type} {fields : Fields Value} {name : String}
    {convert : Value → Checked α} {toValue : α → Value} {given : Option α}
    (hConvert : ∀ a, convert (toValue a) = .ok a) (h : fields.get? name = given.map toValue) :
    checkPart fields name convert = .ok given := by
  rw [checkPart, h]
  cases given with
  | none => rfl
  | some a =>
    simp only [Option.map_some, hConvert]
    rfl

/-- **Patches as mappings.** Options that were converted before are read from their mapping. -/
theorem ModulePatch.ofFields_toFields (patch : ModulePatch) :
    ModulePatch.ofFields patch.toFields = .ok patch := by
  have hTasks : Fields.get? patch.toFields "server_tasks" = patch.serverTasks.map .bool := by
    simp [toFields, get?_givenField_append, get?_givenField]
  have hDir : Fields.get? patch.toFields "tasks_dir" = patch.tasksDir.map Value.ofText? := by
    simp [toFields, get?_givenField_append, get?_givenField]
  rw [ofFields, checkField_of_map coerceBool_bool hTasks, checkField_of_map coerceOptional_ofText? hDir,
    checkPart_of_map StoragePatch.ofFields_toFields patch.get?_storage_toFields,
    checkPart_of_map TimezonePatch.ofFields_toFields patch.get?_timezone_toFields]
  rfl

/-! ## Merged options -/

section merged

variable {α : Type} {fields base : Fields Value} {name : String} {old : Value}

/-- Over a value that is no mapping what is supplied replaces it. -/
theorem get?_mergeFields_of_not_mapping (hNames : (Fields.names fields).Nodup)
    (hOld : base.get? name = some old) (hPlain : ∀ own, old ≠ .mapping own) :
    Fields.get? (mergeFields base fields) name = some ((supplied? fields name).getD old) := by
  rw [get?_mergeFields hNames, hOld]
  cases supplied? fields name with
  | none => rfl
  | some value =>
    have hOwn : ∀ own, some old ≠ some (.mapping own) := fun own hEq => hPlain own (Option.some.inj hEq)
    simp only [mergeValue_of_not_mapping hOwn, Option.getD_some]

/-- What is no mapping replaces what there was. -/
theorem mergeValue_of_plain {value : Value} (h : ∀ given, value ≠ .mapping given)
    (old : Option Value) : mergeValue old value = value := by
  cases value with
  | mapping given => exact absurd rfl (h given)
  | _ => rw [mergeValue]; simp

/-- A name that is in force counts as given after a merger. -/
theorem has_mergeFields (hNames : (Fields.names fields).Nodup) (hOld : base.get? name = some old) :
    Fields.has (mergeFields base fields) name = true := by
  obtain ⟨value, hValue⟩ := exists_get?_mergeFields hNames hOld
  rw [Fields.has, hValue]
  rfl

/-- A field that is read on its own is read over what is in force. -/
theorem checkField_mergeFields {coerce : Value → Except OptionFault α} {b : α} {found : Option α}
    (hNames : (Fields.names fields).Nodup) (h : checkField fields name coerce = .ok found)
    (hStable : coerce old = .ok b) (hOld : base.get? name = some old)
    (hPlain : ∀ own, old ≠ .mapping own) (hNull : ∀ a, coerce .null ≠ .ok a) :
    checkField (mergeFields base fields) name coerce = .ok (some (found.getD b)) := by
  rw [checkField, get?_mergeFields_of_not_mapping hNames hOld hPlain, supplied?]
  cases hValue : fields.get? name with
  | none =>
    rw [checkField, hValue] at h
    obtain rfl := Except.ok.inj h
    simp only [Option.filter_none, Option.getD_none, hStable]
  | some value =>
    obtain ⟨a, hCoerce, rfl⟩ := checkField_eq_ok h hValue
    have hGiven : value.isNull = false := by
      cases value with
      | null => exact absurd hCoerce (hNull a)
      | _ => rfl
    simp only [Option.filter_some, hGiven, Bool.not_false, if_true, Option.getD_some, hCoerce]

/-- A field that may be `null` is read over what is in force as well; a `null` counts as not given.
-/
theorem checkField_mergeFields_optional {coerce : Value → Except OptionFault α} {b : Option α}
    {found : Option (Option α)} (hNames : (Fields.names fields).Nodup)
    (h : checkField fields name (coerceOptional coerce) = .ok found)
    (hStable : coerceOptional coerce old = .ok b) (hOld : base.get? name = some old)
    (hPlain : ∀ own, old ≠ .mapping own) :
    checkField (mergeFields base fields) name (coerceOptional coerce) =
      .ok (some (found.join.or b)) := by
  rw [checkField, get?_mergeFields_of_not_mapping hNames hOld hPlain, supplied?]
  cases hValue : fields.get? name with
  | none =>
    rw [checkField, hValue] at h
    obtain rfl := Except.ok.inj h
    simp only [Option.filter_none, Option.getD_none, hStable, Option.join_none, Option.none_or]
  | some value =>
    obtain ⟨a, hCoerce, rfl⟩ := checkField_eq_ok h hValue
    cases hNull : value.isNull with
    | true =>
      rw [coerceOptional, if_pos hNull] at hCoerce
      obtain rfl := Except.ok.inj hCoerce
      simp only [Option.filter_some, hNull, Bool.not_true, Bool.false_eq_true, if_false,
        Option.getD_none, hStable, Option.join_some, Option.none_or]
    | false =>
      have hSome : ∃ own, a = some own := by
        rw [coerceOptional, hNull] at hCoerce
        obtain ⟨own, -, hOwn⟩ := map_eq_ok.1 hCoerce
        exact ⟨own, hOwn.symm⟩
      obtain ⟨own, rfl⟩ := hSome
      simp only [Option.filter_some, hNull, Bool.not_false, if_true, Option.getD_some, hCoerce,
        Option.join_some, Option.some_or]

end merged

/-! ## Options under a mapping -/

/-- What counts of the time zone options of a mapping: the flag for validation counts under its short
name only. -/
def TimezonePatch.counted (patch : TimezonePatch) (given : Fields Value) : TimezonePatch :=
  if given.has "validate" then patch else { patch with validate := none }

/-- The storage options under what a mapping holds for them, which is read as a patch: options that were
converted before take their place as a whole. -/
def StorageOptions.under (base : StorageOptions) (patch : StoragePatch) :
    Option Value → StorageOptions
  | some (.storageOptions part) => part.fill
  | _ => patch.laidOver base

/-- The time zone options under what a mapping holds for them, which is read as a patch: options that
were converted before take their place as a whole. -/
def TimezoneOptions.under (base : TimezoneOptions) (patch : TimezonePatch) :
    Option Value → TimezoneOptions
  | some (.timezoneOptions part) => part.fill
  | some (.mapping own) => (patch.counted own).laidOver base
  | _ => patch.laidOver base

/-- The module options under a mapping that is read as a patch. -/
def ModuleOptions.under (base : ModuleOptions) (patch : ModulePatch) (fields : Fields Value) :
    ModuleOptions :=
  { patch.laidOver base with
    storage := base.storage.under (patch.storage.getD {}) (fields.get? "storage")
    timezone := base.timezone.under (patch.timezone.getD {}) (fields.get? "timezone") }

/-- No name of the mapping occurs twice, and no name of the mappings in it. -/
structure HaveDistinctNames (fields : Fields Value) : Prop where
  names : (Fields.names fields).Nodup
  parts : ∀ part own, fields.get? part = some (.mapping own) → (Fields.names own).Nodup

section parts

variable {given fields : Fields Value}

/-- Storage options that are read on their own are read over those in force. -/
theorem StoragePatch.exists_ofFields_mergeFields {patch : StoragePatch} (base : StorageOptions)
    (hNames : (Fields.names given).Nodup) (h : StoragePatch.ofFields given = .ok patch) :
    ∃ merged, StoragePatch.ofFields (mergeFields base.toFields given) = .ok merged ∧
      merged.fill = patch.laidOver base := by
  simp only [StoragePatch.ofFields, map_eq_ok, Prod.exists, Checked.both_eq_ok] at h
  obtain ⟨kind, keyPrefix, redisUrl, redisPassword, redisDb, databaseUrl, databaseEcho,
    ⟨hKind, hPrefix, hUrl, hPassword, hDb, hDatabase, hEcho⟩, rfl⟩ := h
  rw [StoragePatch.ofFields,
    checkField_mergeFields hNames hKind (coerceKind_name base.kind) rfl
      (text_ne_mapping _) coerceKind_null,
    checkField_mergeFields hNames hPrefix (coerceText_text base.keyPrefix) rfl
      (text_ne_mapping _) coerceText_null,
    checkField_mergeFields hNames hUrl (coerceText_text base.redisUrl) rfl
      (text_ne_mapping _) coerceText_null,
    checkField_mergeFields_optional hNames hPassword (coerceOptional_ofText? base.redisPassword) rfl
      (ofText?_ne_mapping _),
    checkField_mergeFields_optional hNames hDb (coerceOptional_ofInt? base.redisDb) rfl
      (ofInt?_ne_mapping _),
    checkField_mergeFields hNames hDatabase (coerceText_text base.databaseUrl) rfl
      (text_ne_mapping _) coerceText_null,
    checkField_mergeFields hNames hEcho (coerceBool_bool base.databaseEcho) rfl
      (bool_ne_mapping _) coerceBool_null]
  exact ⟨_, rfl, rfl⟩

/-- Time zone options that are read on their own are read over those in force, but the flag for
validation only counts under its short name, under which the one in force stands. -/
theorem TimezonePatch.exists_ofFields_mergeFields {patch : TimezonePatch} (base : TimezoneOptions)
    (hNames : (Fields.names given).Nodup) (h : TimezonePatch.ofFields given = .ok patch) :
    ∃ merged, TimezonePatch.ofFields (mergeFields base.toFields given) = .ok merged ∧
      merged.fill = (patch.counted given).laidOver base := by
  simp only [TimezonePatch.ofFields, map_eq_ok, Prod.exists, Checked.both_eq_ok] at h
  obtain ⟨zone, validate, strict, ⟨⟨hZone, hValidate⟩, hStrict⟩, rfl⟩ := h
  have hOld : base.toFields.get? "validate" = some (.bool base.validate) := rfl
  have hFlag : checkValidate (mergeFields base.toFields given) =
      .ok (some ((if given.has "validate" then validate else none).getD base.validate)) := by
    have hGiven : checkField given "validate" coerceBool =
        .ok (if given.has "validate" then validate else none) := by
      rw [checkValidate] at hValidate
      split at hValidate
      · next hShort => rw [if_pos hShort, hValidate]
      · next hShort =>
        rw [if_neg hShort, checkField, Option.not_isSome_iff_eq_none.1 hShort]
    rw [checkValidate, if_pos (has_mergeFields hNames hOld)]
    exact checkField_mergeFields hNames hGiven (coerceBool_bool base.validate) hOld
      (bool_ne_mapping _) coerceBool_null
  rw [TimezonePatch.ofFields,
    checkField_mergeFields hNames hZone (coerceText_text base.zone) rfl
      (text_ne_mapping _) coerceText_null, hFlag,
    checkField_mergeFields hNames hStrict (coerceBool_bool base.strict) rfl
      (bool_ne_mapping _) coerceBool_null]
  refine ⟨_, rfl, ?_⟩
  rw [TimezonePatch.counted]
  split <;> rfl

/-- **Parts.** If the mappings of a part are read over the one in force, and options that were converted
before are taken as they are, then what a mapping holds for the part is read over what is in force. -/
theorem checkPart_mergeFields {α β : Type} {convert : Value → Checked α} {fill : α → β}
    {under : α → Option Value → β} {empty : α} {base own : Fields Value} {name : String}
    {found : Option α}
    (hMapping : ∀ given patch, (Fields.names given).Nodup → convert (.mapping given) = .ok patch →
      ∃ merged, convert (.mapping (mergeFields own given)) = .ok merged ∧
        fill merged = under patch (some (.mapping given)))
    (hModel : ∀ value patch, (∀ given, value ≠ .mapping given) → convert value = .ok patch →
      value.isNull = false ∧ fill patch = under patch (some value))
    (hEmpty : convert (.mapping []) = .ok empty ∧ under empty (some (.mapping [])) = under empty none)
    (hNames : HaveDistinctNames fields) (hOld : base.get? name = some (.mapping own))
    (h : checkPart fields name convert = .ok found) :
    ∃ part, checkPart (mergeFields base fields) name convert = .ok (some part) ∧
      fill part = under (found.getD empty) (fields.get? name) := by
  have hRead : ∀ {value : Value} {part : α},
      Fields.get? (mergeFields base fields) name = some value → convert value = .ok part →
        checkPart (mergeFields base fields) name convert = .ok (some part) := by
    intro value part hValue hPart
    rw [checkPart, hValue]
    simp only [hPart]
    rfl
  have hMerged := @get?_mergeFields base fields name hNames.names
  cases hValue : fields.get? name with
  | none =>
    rw [checkPart, hValue] at h
    obtain rfl := Except.ok.inj h
    rw [supplied?, hValue] at hMerged
    obtain ⟨part, hPart, hFill⟩ := hMapping [] empty List.nodup_nil hEmpty.1
    rw [mergeFields] at hPart
    exact ⟨part, hRead (hMerged.trans hOld) hPart, hFill.trans hEmpty.2⟩
  | some value =>
    obtain ⟨patch, hPatch, rfl⟩ := checkPart_eq_ok h hValue
    by_cases hIs : ∃ given, value = .mapping given
    · obtain ⟨given, rfl⟩ := hIs
      obtain ⟨part, hPart, hFill⟩ := hMapping given patch (hNames.parts _ _ hValue) hPatch
      rw [supplied?, hValue, hOld] at hMerged
      exact ⟨part, hRead (hMerged.trans (by rw [← mergeValue]; rfl)) hPart, hFill⟩
    · have hNot : ∀ given, value ≠ .mapping given := fun given hEq => hIs ⟨given, hEq⟩
      obtain ⟨hGiven, hFill⟩ := hModel value patch hNot hPatch
      rw [supplied?, hValue, Option.filter_some, hGiven] at hMerged
      have hSame := congrArg some (mergeValue_of_plain hNot (base.get? name))
      exact ⟨patch, hRead (hMerged.trans hSame) hPatch, hFill⟩

/-- What a mapping holds for the storage options is read over those in force. -/
theorem checkStorage_mergeFields {found : Option StoragePatch} (base : ModuleOptions)
    (hNames : HaveDistinctNames fields)
    (h : checkPart fields "storage" StoragePatch.ofValue = .ok found) :
    ∃ part, checkPart (mergeFields base.toFields fields) "storage" StoragePatch.ofValue =
        .ok (some part) ∧
      part.fill = base.storage.under (found.getD {}) (fields.get? "storage") := by
  refine checkPart_mergeFields (fun given patch hGiven hPatch =>
    StoragePatch.exists_ofFields_mergeFields base.storage hGiven hPatch) ?_ ⟨rfl, rfl⟩ hNames rfl h
  intro value patch hNot hPatch
  cases value with
  | storageOptions given =>
    obtain rfl := Except.ok.inj hPatch
    exact ⟨rfl, rfl⟩
  | mapping given => exact absurd rfl (hNot given)
  | _ => cases hPatch

/-- What it holds for the time zone options is read over those in force. -/
theorem checkTimezone_mergeFields {found : Option TimezonePatch} (base : ModuleOptions)
    (hNames : HaveDistinctNames fields)
    (h : checkPart fields "timezone" TimezonePatch.ofValue = .ok found) :
    ∃ part, checkPart (mergeFields base.toFields fields) "timezone" TimezonePatch.ofValue =
        .ok (some part) ∧
      part.fill = base.timezone.under (found.getD {}) (fields.get? "timezone") := by
  refine checkPart_mergeFields (fun given patch hGiven hPatch =>
    TimezonePatch.exists_ofFields_mergeFields base.timezone hGiven hPatch) ?_ ⟨rfl, rfl⟩ hNames rfl h
  intro value patch hNot hPatch
  cases value with
  | timezoneOptions given =>
    obtain rfl := Except.ok.inj hPatch
    exact ⟨rfl, rfl⟩
  | mapping given => exact absurd rfl (hNot given)
  | _ => cases hPatch

end parts

/-! ## Parts that were read -/

section read

variable {fields : Fields Value} {patch : ModulePatch}

/-- What is read from a mapping is read from its parts. -/
theorem ModulePatch.parts_of_ofFields (h : ModulePatch.ofFields fields = .ok patch) :
    checkPart fields "storage" StoragePatch.ofValue = .ok patch.storage ∧
      checkPart fields "timezone" TimezonePatch.ofValue = .ok patch.timezone := by
  simp only [ModulePatch.ofFields, map_eq_ok, Prod.exists, Checked.both_eq_ok] at h
  obtain ⟨_, _, _, _, ⟨-, -, hStorage, hTimezone⟩, rfl⟩ := h
  exact ⟨hStorage, hTimezone⟩

/-- A part is given or not, and in the first case it is read from what is given. -/
theorem checkPart_cases {α : Type} {name : String} {convert : Value → Checked α} {found : Option α}
    (h : checkPart fields name convert = .ok found) :
    (fields.get? name = none ∧ found = none) ∨
      ∃ value a, fields.get? name = some value ∧ convert value = .ok a ∧ found = some a := by
  cases hValue : fields.get? name with
  | none =>
    rw [checkPart, hValue] at h
    exact .inl ⟨rfl, (Except.ok.inj h).symm⟩
  | some value =>
    obtain ⟨a, hConvert, hFound⟩ := checkPart_eq_ok h hValue
    exact .inr ⟨value, a, rfl, hConvert, hFound⟩

end read

/-! ## Overlays -/

section overlays

variable {fields : Fields Value} {patch : ModulePatch}

/-- **Overlays.** A mapping that is read as a patch on its own can be laid over all options, and the
options in force are then those under the mapping. -/
theorem overlay_mapping (base : ModuleOptions) (hNames : HaveDistinctNames fields)
    (h : ModulePatch.ofFields fields = .ok patch) :
    Configuration.overlay base (.mapping fields) = .ok ⟨base.under patch fields⟩ := by
  simp only [ModulePatch.ofFields, map_eq_ok, Prod.exists, Checked.both_eq_ok] at h
  obtain ⟨serverTasks, tasksDir, storage, timezone, ⟨hTasks, hDir, hStorage, hTimezone⟩, rfl⟩ := h
  obtain ⟨storagePart, hStoragePart, hStorageFill⟩ := checkStorage_mergeFields base hNames hStorage
  obtain ⟨timezonePart, hTimezonePart, hTimezoneFill⟩ :=
    checkTimezone_mergeFields base hNames hTimezone
  have hRead : completeOptions (mergeFields base.toFields fields) =
      .ok (base.under ⟨serverTasks, tasksDir, storage, timezone⟩ fields) := by
    rw [completeOptions, ModulePatch.ofFields,
      checkField_mergeFields hNames.names hTasks (coerceBool_bool base.serverTasks) rfl
      (bool_ne_mapping _) coerceBool_null,
      checkField_mergeFields_optional hNames.names hDir (coerceOptional_ofText? base.tasksDir) rfl
        (ofText?_ne_mapping _), hStoragePart, hTimezonePart]
    refine congrArg Except.ok ?_
    rw [ModuleOptions.under, ← hStorageFill, ← hTimezoneFill]
    rfl
  rw [Configuration.overlay, partialFields, ok_bind, hRead]
  rfl

/-- A field that is there has been given, under the name and with the value it has. -/
theorem mem_givenField {α : Type} {name : String} {toValue : α → Value} {given : Option α}
    {field : String × Value} (h : field ∈ givenField name toValue given) :
    ∃ a, given = some a ∧ field = (name, toValue a) := by
  cases given with
  | none => cases h
  | some a => exact ⟨a, rfl, List.mem_singleton.1 h⟩

/-- A field has its own name or is not there. -/
theorem names_givenField_sublist {α : Type} (name : String) (toValue : α → Value) (given : Option α) :
    (Fields.names (givenField name toValue given)).Sublist [name] := by
  cases given with
  | none => exact List.nil_sublist _
  | some a => exact List.Sublist.refl _

/-- The names of storage options that are written are distinct. -/
theorem StoragePatch.nodup_names_toFields (patch : StoragePatch) :
    (Fields.names patch.toFields).Nodup := by
  have hNames : (["type"] ++ ["prefix"] ++ ["redis_url"] ++ ["redis_password"] ++ ["redis_db"] ++
      ["database_url"] ++ ["database_echo"]).Nodup := by decide
  refine List.Nodup.sublist ?_ hNames
  simp only [StoragePatch.toFields, Fields.names, List.map_append]
  exact (((((((names_givenField_sublist _ _ _).append (names_givenField_sublist _ _ _)).append
    (names_givenField_sublist _ _ _)).append (names_givenField_sublist _ _ _)).append
    (names_givenField_sublist _ _ _)).append (names_givenField_sublist _ _ _)).append
    (names_givenField_sublist _ _ _))

/-- The names of time zone options that are written are distinct. -/
theorem TimezonePatch.nodup_names_toFields (patch : TimezonePatch) :
    (Fields.names patch.toFields).Nodup := by
  have hNames : (["type"] ++ ["validate"] ++ ["strict"]).Nodup := by decide
  refine List.Nodup.sublist ?_ hNames
  simp only [TimezonePatch.toFields, Fields.names, List.map_append]
  exact ((names_givenField_sublist _ _ _).append (names_givenField_sublist _ _ _)).append
    (names_givenField_sublist _ _ _)

/-- The names of the mapping of a patch are distinct, and so are those of its parts. -/
theorem ModulePatch.haveDistinctNames_toFields (patch : ModulePatch) :
    HaveDistinctNames patch.toFields where
  names := by
    have hNames : (["server_tasks"] ++ ["tasks_dir"] ++ ["storage"] ++ ["timezone"]).Nodup := by decide
    refine List.Nodup.sublist ?_ hNames
    simp only [ModulePatch.toFields, Fields.names, List.map_append]
    exact (((names_givenField_sublist _ _ _).append (names_givenField_sublist _ _ _)).append
      (names_givenField_sublist _ _ _)).append (names_givenField_sublist _ _ _)
  parts := by
    intro part own hPart
    have hMem := Fields.mem_of_get? hPart
    simp only [ModulePatch.toFields, List.mem_append] at hMem
    rcases hMem with ((hTasks | hDir) | hStorage) | hTimezone
    · obtain ⟨_, -, hField⟩ := mem_givenField hTasks
      cases hField
    · obtain ⟨given, -, hField⟩ := mem_givenField hDir
      exact absurd (Prod.mk.inj hField).2.symm (ofText?_ne_mapping given own)
    · obtain ⟨given, -, hField⟩ := mem_givenField hStorage
      cases hField
      exact given.nodup_names_toFields
    · obtain ⟨given, -, hField⟩ := mem_givenField hTimezone
      cases hField
      exact given.nodup_names_toFields

/-- All of a patch counts in the mapping it is written as. -/
theorem TimezonePatch.counted_toFields (patch : TimezonePatch) :
    patch.counted patch.toFields = patch := by
  rw [counted, Fields.has, patch.get?_validate_toFields, Option.isSome_map]
  cases hValidate : patch.validate with
  | none =>
    obtain ⟨zone, validate, strict⟩ := patch
    obtain rfl : validate = none := hValidate
    rfl
  | some flag => rfl

/-- Options that were converted before are laid over all options as a patch. -/
theorem overlay_moduleOptions (base : ModuleOptions) (patch : ModulePatch) :
    Configuration.overlay base (.moduleOptions patch) = .ok ⟨patch.laidOver base⟩ := by
  have hMapping := overlay_mapping base patch.haveDistinctNames_toFields patch.ofFields_toFields
  have hUnder : base.under patch patch.toFields = patch.laidOver base := by
    rw [ModuleOptions.under, patch.get?_storage_toFields, patch.get?_timezone_toFields]
    obtain ⟨serverTasks, tasksDir, storage, timezone⟩ := patch
    cases storage <;> cases timezone <;>
      simp only [Option.map_none, Option.map_some, StorageOptions.under, TimezoneOptions.under,
        TimezonePatch.counted_toFields, Option.getD_some, ModulePatch.laidOver]
  rwa [hUnder] at hMapping

end overlays

end Crontab
