import Crontab.Proofs.Config.Shapes

/-!
# Compatible options

Whether partial options are compatible with those in force is decided without laying them over those:
what is not given is taken from the defaults.  The verdict is therefore about the options that would be
in force if the given ones were set, and it holds for an update as well if that decides the zone in the
same way.

* `Configuration.KeepsZone` — options that name a zone, and impose it only if it is the one in force;
* `Configuration.SettlesZone` — a mapping under which the zone is the same as over the defaults;
* `HoldsUnreadable` — what can be laid over options, but cannot be read without them;
* `Configuration.isOk_accepts_iff` — when there is a verdict;
* `Configuration.accepts_foresees_setting` — what it foretells;
* `Configuration.accepts_misleads` — updates that it does not foretell.
-/

namespace Crontab

/-! ## Mappings without their nulls -/

section stripped

variable {fields base : Fields Value} {name : String}

/-- Merging a mapping into one with distinct names leaves its names distinct. -/
theorem nodup_names_mergeFields (hBase : (Fields.names base).Nodup) (fields : Fields Value) :
    (Fields.names (mergeFields base fields)).Nodup := by
  induction fields generalizing base with
  | nil =>
    rw [mergeFields]
    exact hBase
  | cons field rest ih =>
    rw [mergeFields]
    split
    · exact ih hBase
    · exact ih (Fields.nodup_names_put hBase _ _)

/-- Laid over nothing, a name holds what is supplied for it. -/
theorem get?_stripped (hNames : (Fields.names fields).Nodup) :
    Fields.get? (mergeFields [] fields) name = supplied? fields name := by
  have hNone : ∀ own, Fields.get? ([] : Fields Value) name ≠ some (.mapping own) := nofun
  rw [get?_mergeFields hNames]
  cases supplied? fields name with
  | none => rfl
  | some value => exact congrArg some (mergeValue_of_not_mapping hNone value)

/-- Leaving out every `null` does not change what a mapping supplies. -/
theorem supplied?_stripped (hNames : (Fields.names fields).Nodup) :
    supplied? (mergeFields [] fields) name = supplied? fields name := by
  rw [supplied?, get?_stripped hNames, supplied?, Option.filter_filter]
  simp

/-- What a mapping supplies for a name is what it holds under it. -/
theorem get?_of_supplied? {value : Value} (h : supplied? fields name = some value) :
    fields.get? name = some value :=
  (Option.filter_eq_some_iff.1 h).1

/-- The fields of a part are those of the mapping that is supplied for it. -/
theorem partFields_of_supplied? {own : Fields Value}
    (h : supplied? fields name = some (.mapping own)) : partFields fields name = own := by
  rw [partFields, get?_of_supplied? h]

/-- What holds no mapping has no options of its own. -/
theorem partFields_of_not_supplied? (h : ∀ own, supplied? fields name ≠ some (.mapping own)) :
    partFields fields name = [] := by
  rw [partFields]
  split
  · next own hOwn => exact absurd (by rw [supplied?, hOwn]; rfl) (h own)
  · rfl

/-- Names that are distinct stay so when every `null` is left out. -/
theorem HaveDistinctNames.stripped (h : HaveDistinctNames fields) :
    HaveDistinctNames (mergeFields [] fields) where
  names := @nodup_names_mergeFields [] List.nodup_nil fields
  parts := by
    intro part own hPart
    rw [get?_stripped h.names] at hPart
    exact h.parts part own (get?_of_supplied? hPart)

/-- The nulls of a mapping make no difference where it is laid over options. -/
theorem overlay_stripped (base : ModuleOptions) (h : HaveDistinctNames fields) :
    Configuration.overlay base (.mapping (mergeFields [] fields)) =
      Configuration.overlay base (.mapping fields) := by
  have hGet : ∀ name, Fields.get? (mergeFields base.toFields (mergeFields [] fields)) name =
      Fields.get? (mergeFields base.toFields fields) name := by
    intro name
    rw [get?_mergeFields h.stripped.names, get?_mergeFields h.names, supplied?_stripped h.names]
  have hRead : completeOptions (mergeFields base.toFields (mergeFields [] fields)) =
      completeOptions (mergeFields base.toFields fields) := by
    simp only [completeOptions, ModulePatch.ofFields, checkField, checkPart, hGet]
  simp only [Configuration.overlay, partialFields, ok_bind, hRead]

end stripped

/-! ## What can be read on its own -/

/-- The mapping holds a `null` under one of some names. -/
def HoldsNull (fields : Fields Value) (names : List String) : Prop :=
  ∃ name ∈ names, fields.get? name = some .null

/-- The names of the storage options that cannot be `null`. -/
def neededStorage : List String :=
  ["type", "prefix", "redis_url", "database_url", "database_echo"]

/-- The names of the time zone options, none of which can be `null`. -/
def neededTimezone : List String :=
  ["type", "validate", "strict"]

/-- The mapping holds the flag for validation under its long name only, and it is no truth value. -/
def HoldsUnreadFlag (fields : Fields Value) : Prop :=
  fields.has "validate" = false ∧ ∃ value fault, fields.get? "validate_timezone" = some value ∧
    coerceBool value = .error fault

theorem not_holdsNull_nil (names : List String) : ¬ HoldsNull [] names := by
  rintro ⟨name, -, ⟨⟩⟩

theorem not_holdsUnreadFlag_nil : ¬ HoldsUnreadFlag [] := by
  rintro ⟨-, value, fault, ⟨⟩, -⟩

/-- A part of the mapping cannot be read on its own: it holds a `null` in place of an option that
cannot be `null`, or no truth value for a flag that does not count. -/
def HoldsUnreadable (fields : Fields Value) : Prop :=
  HoldsNull (partFields fields "storage") neededStorage ∨
    HoldsNull (partFields fields "timezone") neededTimezone ∨
    HoldsUnreadFlag (partFields fields "timezone")

section reading

variable {α β : Type} {fields base own : Fields Value} {name : String} {old : Value}
  {coerce : Value → Except OptionFault α}

/-- A check succeeds with a function applied to its result exactly when it succeeds. -/
theorem exists_map_eq_ok {x : Checked α} {f : α → β} :
    (∃ b, x.map f = .ok b) ↔ ∃ a, x = .ok a := by
  cases x <;> simp [Except.map]

/-- Two checks succeed together exactly when each of them does. -/
theorem Checked.exists_both_eq_ok {x : Checked α} {y : Checked β} :
    (∃ both, x.both y = .ok both) ↔ (∃ a, x = .ok a) ∧ ∃ b, y = .ok b := by
  cases x <;> cases y <;> simp [Checked.both]

/-- A field is read unless it holds a value that has no converted form. -/
theorem exists_checkField_iff_coerce :
    (∃ found, checkField fields name coerce = .ok found) ↔
      ∀ value, fields.get? name = some value → ∃ a, coerce value = .ok a := by
  rw [checkField]
  cases fields.get? name with
  | none => simp
  | some value => cases hCoerce : coerce value <;> simp [hCoerce]

/-- What is read over a value that is no mapping has a converted form. -/
theorem exists_coerce_of_supplied? {merged : Option α} {value : Value}
    (hNames : (Fields.names fields).Nodup)
    (h : checkField (mergeFields base fields) name coerce = .ok merged)
    (hOld : base.get? name = some old) (hPlain : ∀ own, old ≠ .mapping own)
    (hValue : supplied? fields name = some value) : ∃ a, coerce value = .ok a := by
  have hMerged := get?_mergeFields_of_not_mapping hNames hOld hPlain
  rw [hValue] at hMerged
  obtain ⟨a, hCoerce, -⟩ := checkField_eq_ok h hMerged
  exact ⟨a, hCoerce⟩

/-- It can be read on its own without the nulls of the mapping. -/
theorem exists_checkField_stripped {merged : Option α} (hNames : (Fields.names fields).Nodup)
    (h : checkField (mergeFields base fields) name coerce = .ok merged)
    (hOld : base.get? name = some old) (hPlain : ∀ own, old ≠ .mapping own) :
    ∃ found, checkField (mergeFields [] fields) name coerce = .ok found := by
  refine exists_checkField_iff_coerce.2 fun value hValue => ?_
  rw [get?_stripped hNames] at hValue
  exact exists_coerce_of_supplied? hNames h hOld hPlain hValue

/-- With its nulls it can be read on its own unless it is a `null` itself, which has no converted
form. -/
theorem exists_checkField_iff {merged : Option α} (hNames : (Fields.names fields).Nodup)
    (h : checkField (mergeFields base fields) name coerce = .ok merged)
    (hOld : base.get? name = some old) (hPlain : ∀ own, old ≠ .mapping own)
    (hNull : ∀ a, coerce .null ≠ .ok a) :
    (∃ found, checkField fields name coerce = .ok found) ↔ fields.get? name ≠ some .null := by
  rw [exists_checkField_iff_coerce]
  constructor
  · intro hAll hIs
    obtain ⟨a, hCoerce⟩ := hAll .null hIs
    exact hNull a hCoerce
  · intro hNot value hValue
    refine exists_coerce_of_supplied? hNames h hOld hPlain ?_
    rw [supplied?, hValue, Option.filter_some, if_pos]
    cases value with
    | null => exact absurd hValue hNot
    | _ => rfl

/-- A `null` that counts as not given can be read on its own. -/
theorem exists_checkField_optional {merged : Option (Option α)} (hNames : (Fields.names fields).Nodup)
    (h : checkField (mergeFields base fields) name (coerceOptional coerce) = .ok merged)
    (hOld : base.get? name = some old) (hPlain : ∀ own, old ≠ .mapping own) :
    ∃ found, checkField fields name (coerceOptional coerce) = .ok found := by
  refine exists_checkField_iff_coerce.2 fun value hValue => ?_
  cases hIs : value.isNull with
  | true => exact ⟨none, by rw [coerceOptional, if_pos hIs]⟩
  | false =>
    refine exists_coerce_of_supplied? hNames h hOld hPlain ?_
    rw [supplied?, hValue, Option.filter_some, hIs]
    rfl

/-- Storage options that are read over those in force can be read on their own, unless they hold a
`null` that cannot be read. -/
theorem StoragePatch.exists_ofFields_iff {merged : StoragePatch} {base : StorageOptions}
    (hNames : (Fields.names own).Nodup)
    (h : StoragePatch.ofFields (mergeFields base.toFields own) = .ok merged) :
    (∃ patch, StoragePatch.ofFields own = .ok patch) ↔ ¬ HoldsNull own neededStorage := by
  simp only [StoragePatch.ofFields, map_eq_ok, Prod.exists, Checked.both_eq_ok] at h
  obtain ⟨_, _, _, _, _, _, _, ⟨hKind, hPrefix, hUrl, hPassword, hDb, hDatabase, hEcho⟩, -⟩ := h
  have hPassword := exists_checkField_optional hNames hPassword rfl (ofText?_ne_mapping _)
  have hDb := exists_checkField_optional hNames hDb rfl (ofInt?_ne_mapping _)
  simp only [StoragePatch.ofFields, exists_map_eq_ok, Checked.exists_both_eq_ok,
    exists_checkField_iff hNames hKind rfl (text_ne_mapping _) coerceKind_null,
    exists_checkField_iff hNames hPrefix rfl (text_ne_mapping _) coerceText_null,
    exists_checkField_iff hNames hUrl rfl (text_ne_mapping _) coerceText_null, hPassword, hDb,
    exists_checkField_iff hNames hDatabase rfl (text_ne_mapping _) coerceText_null,
    exists_checkField_iff hNames hEcho rfl (bool_ne_mapping _) coerceBool_null]
  simp [HoldsNull, neededStorage]

/-- The flag for validation can be read on its own unless it is a `null`, or its long name counts and
holds no truth value. -/
theorem exists_checkValidate_iff {merged : Option Bool} {base : TimezoneOptions}
    (hNames : (Fields.names own).Nodup)
    (h : checkValidate (mergeFields base.toFields own) = .ok merged) :
    (∃ found, checkValidate own = .ok found) ↔
      own.get? "validate" ≠ some .null ∧ ¬ HoldsUnreadFlag own := by
  have hOld : base.toFields.get? "validate" = some (.bool base.validate) := rfl
  rw [checkValidate, if_pos (has_mergeFields hNames hOld)] at h
  rw [checkValidate]
  cases hShort : own.has "validate" with
  | true =>
    rw [if_pos rfl, exists_checkField_iff hNames h hOld (bool_ne_mapping _) coerceBool_null]
    simp [HoldsUnreadFlag, hShort]
  | false =>
    have hNone : own.get? "validate" = none := by
      rwa [Fields.has, Option.isSome_eq_false_iff, Option.isNone_iff_eq_none] at hShort
    rw [if_neg Bool.false_ne_true, exists_checkField_iff_coerce, HoldsUnreadFlag, hNone]
    constructor
    · rintro hAll
      refine ⟨by simp, ?_⟩
      rintro ⟨-, value, fault, hValue, hFault⟩
      obtain ⟨flag, hFlag⟩ := hAll value hValue
      cases hFault.symm.trans hFlag
    · rintro ⟨-, hNot⟩ value hValue
      cases hCoerce : coerceBool value with
      | ok flag => exact ⟨flag, rfl⟩
      | error fault => exact absurd ⟨hShort, value, fault, hValue, hCoerce⟩ hNot

/-- So can time zone options, unless they hold no truth value for the flag for validation under its long
name. -/
theorem TimezonePatch.exists_ofFields_iff {merged : TimezonePatch} {base : TimezoneOptions}
    (hNames : (Fields.names own).Nodup)
    (h : TimezonePatch.ofFields (mergeFields base.toFields own) = .ok merged) :
    (∃ patch, TimezonePatch.ofFields own = .ok patch) ↔
      ¬ (HoldsNull own neededTimezone ∨ HoldsUnreadFlag own) := by
  simp only [TimezonePatch.ofFields, map_eq_ok, Prod.exists, Checked.both_eq_ok] at h
  obtain ⟨_, _, _, ⟨⟨hZone, hValidate⟩, hStrict⟩, -⟩ := h
  simp only [TimezonePatch.ofFields, exists_map_eq_ok, Checked.exists_both_eq_ok,
    exists_checkField_iff hNames hZone rfl (text_ne_mapping _) coerceText_null,
    exists_checkValidate_iff hNames hValidate,
    exists_checkField_iff hNames hStrict rfl (bool_ne_mapping _) coerceBool_null]
  have hNull : HoldsNull own neededTimezone ↔ own.get? "type" = some .null ∨
      own.get? "validate" = some .null ∨ own.get? "strict" = some .null := by
    simp [HoldsNull, neededTimezone]
  rw [hNull]
  tauto

/-- A part is read unless it holds a value that has no converted form. -/
theorem exists_checkPart_iff_convert {convert : Value → Checked α} :
    (∃ found, checkPart fields name convert = .ok found) ↔
      ∀ value, fields.get? name = some value → ∃ a, convert value = .ok a := by
  rw [checkPart]
  cases fields.get? name with
  | none => simp
  | some value => simp [exists_map_eq_ok, Checked.under_eq_ok]

/-- A part that is read over one in force can be read on its own if its mapping can. -/
theorem exists_checkPart_iff {convert : Value → Checked α} {merged : Option α}
    {CanBeRead : Fields Value → Prop} (hNames : HaveDistinctNames fields)
    (h : checkPart (mergeFields base fields) name convert = .ok merged)
    (hOld : base.get? name = some (.mapping own))
    (hMapping : ∀ given part, (Fields.names given).Nodup →
      convert (.mapping (mergeFields own given)) = .ok part →
        ((∃ patch, convert (.mapping given) = .ok patch) ↔ CanBeRead given))
    (hEmpty : CanBeRead []) :
    (∃ found, checkPart (mergeFields [] fields) name convert = .ok found) ↔
      CanBeRead (partFields fields name) := by
  have hRead := exists_checkPart_iff_convert.1 ⟨merged, h⟩
  have hMerged := @get?_mergeFields base fields name hNames.names
  rw [exists_checkPart_iff_convert, get?_stripped hNames.names]
  cases hValue : supplied? fields name with
  | none =>
    rw [partFields_of_not_supplied? (by rw [hValue]; nofun)]
    exact iff_of_true nofun hEmpty
  | some value =>
    rw [hValue, hOld] at hMerged
    obtain ⟨part, hPart⟩ := hRead _ hMerged
    by_cases hIs : ∃ given, value = .mapping given
    · obtain ⟨given, rfl⟩ := hIs
      have hGiven := hNames.parts name given (get?_of_supplied? hValue)
      rw [mergeValue] at hPart
      rw [partFields_of_supplied? hValue, ← hMapping given part hGiven hPart]
      simp
    · have hNot : ∀ given, value ≠ .mapping given := fun given hEq => hIs ⟨given, hEq⟩
      rw [partFields_of_not_supplied? (by rw [hValue]; simpa using hNot)]
      rw [mergeValue_of_plain hNot] at hPart
      refine iff_of_true ?_ hEmpty
      rintro _ ⟨⟩
      exact ⟨part, hPart⟩

/-- **Reading alone.** Options that are read over those in force can be read on their own, without the
nulls of the mapping itself, unless one of its parts cannot. -/
theorem exists_ofFields_stripped_iff {merged : ModulePatch} {base : ModuleOptions}
    (hNames : HaveDistinctNames fields)
    (h : ModulePatch.ofFields (mergeFields base.toFields fields) = .ok merged) :
    (∃ patch, ModulePatch.ofFields (mergeFields [] fields) = .ok patch) ↔
      ¬ HoldsUnreadable fields := by
  simp only [ModulePatch.ofFields, map_eq_ok, Prod.exists, Checked.both_eq_ok] at h
  obtain ⟨_, _, _, _, ⟨hTasks, hDir, hStorage, hTimezone⟩, -⟩ := h
  have hTasks := exists_checkField_stripped hNames.names hTasks rfl (bool_ne_mapping _)
  have hDir := exists_checkField_stripped hNames.names hDir rfl (ofText?_ne_mapping _)
  have hStorage := exists_checkPart_iff hNames hStorage rfl
    (fun _ _ hGiven hRead => StoragePatch.exists_ofFields_iff hGiven hRead) (not_holdsNull_nil _)
  have hTimezone := exists_checkPart_iff hNames hTimezone rfl
    (fun _ _ hGiven hRead => TimezonePatch.exists_ofFields_iff hGiven hRead)
    (not_or.2 ⟨not_holdsNull_nil _, not_holdsUnreadFlag_nil⟩)
  simp only [ModulePatch.ofFields, exists_map_eq_ok, Checked.exists_both_eq_ok, hTasks, hDir, hStorage,
    hTimezone, HoldsUnreadable]
  tauto

end reading

/-! ## The zone under a mapping -/

/-- Time zone options that were converted before count alone; of other ones the zone and the flag that
imposes it count if they are given. -/
theorem TimezoneOptions.under_cases (base : TimezoneOptions) (patch : TimezonePatch)
    (value : Option Value) :
    (∃ part, value = some (.timezoneOptions part) ∧ base.under patch value = part.fill) ∨
      ((∀ part, value ≠ some (.timezoneOptions part)) ∧
        (base.under patch value).zone = patch.zone.getD base.zone ∧
        (base.under patch value).strict = patch.strict.getD base.strict) := by
  rcases value with _ | value
  · exact .inr ⟨by simp, rfl, rfl⟩
  · cases value with
    | timezoneOptions part => exact .inl ⟨part, rfl, rfl⟩
    | mapping own =>
      refine .inr ⟨by simp, ?_⟩
      rw [under, TimezonePatch.counted]
      split <;> exact ⟨rfl, rfl⟩
    | _ => exact .inr ⟨by simp, rfl, rfl⟩

section zones

variable {fields own : Fields Value} {patch : ModulePatch} {base : ModuleOptions}

/-- Over the defaults the zone, and whether it is imposed, are those that are read. -/
theorem under_default_of_ofFields (h : ModulePatch.ofFields fields = .ok patch) :
    (ModuleOptions.default.under patch fields).timezone.zone = patch.fill.timezone.zone ∧
      (ModuleOptions.default.under patch fields).timezone.strict = patch.fill.timezone.strict := by
  obtain ⟨-, hTimezone⟩ := ModulePatch.parts_of_ofFields h
  rcases ModuleOptions.default.timezone.under_cases (patch.timezone.getD {}) (fields.get? "timezone")
    with ⟨part, hValue, hUnder⟩ | ⟨-, hZone, hStrict⟩
  · obtain ⟨found, hFound, hPart⟩ := checkPart_eq_ok hTimezone hValue
    obtain rfl := Except.ok.inj hFound
    rw [ModuleOptions.under, hUnder, ModulePatch.fill, hPart]
    exact ⟨rfl, rfl⟩
  · exact ⟨hZone, hStrict⟩

/-- The default does not matter for an option that is given, nor if both defaults are equal. -/
theorem getD_eq_getD {α : Type} {given : Option α} {a b : α} (h : given.isSome = true ∨ a = b) :
    given.getD a = given.getD b := by
  rcases h with hSome | rfl
  · obtain ⟨own, rfl⟩ := Option.isSome_iff_exists.1 hSome
    rfl
  · rfl

/-- A field that a mapping has is found by its check. -/
theorem isSome_of_checkField {α : Type} {name : String} {coerce : Value → Except OptionFault α}
    {found : Option α} (h : checkField own name coerce = .ok found) (hHas : own.has name = true) :
    found.isSome = true := by
  obtain ⟨value, hValue⟩ := Option.isSome_iff_exists.1 hHas
  obtain ⟨a, -, rfl⟩ := checkField_eq_ok h hValue
  rfl

/-- What a mapping gives of the zone is given in the patch that is read from it without its nulls. -/
theorem timezone_of_ofFields_stripped (hNames : (Fields.names fields).Nodup)
    (h : ModulePatch.ofFields (mergeFields [] fields) = .ok patch) :
    ((partFields fields "timezone").has "type" = true →
        (patch.timezone.getD {}).zone.isSome = true) ∧
      ((partFields fields "timezone").has "strict" = true →
        (patch.timezone.getD {}).strict.isSome = true) := by
  obtain ⟨-, hTimezone⟩ := ModulePatch.parts_of_ofFields h
  by_cases hIs : ∃ own, supplied? fields "timezone" = some (.mapping own)
  · obtain ⟨own, hOwn⟩ := hIs
    obtain ⟨part, hPart, hFound⟩ := checkPart_eq_ok hTimezone ((get?_stripped hNames).trans hOwn)
    simp only [TimezonePatch.ofValue, TimezonePatch.ofFields, map_eq_ok, Prod.exists,
      Checked.both_eq_ok] at hPart
    obtain ⟨zone, validate, strict, ⟨⟨hZone, -⟩, hStrict⟩, rfl⟩ := hPart
    rw [partFields_of_supplied? hOwn, hFound]
    exact ⟨isSome_of_checkField hZone, isSome_of_checkField hStrict⟩
  · rw [partFields_of_not_supplied? (not_exists.1 hIs)]
    constructor <;> rintro ⟨⟩

end zones

/-! ## Verdicts -/

namespace Configuration

/-- Options that name a zone, and impose it only if it is the one in force. -/
def KeepsZone (config : Configuration) (next : ModuleOptions) : Prop :=
  next.timezone.zone ≠ "" ∧
    (next.timezone.strict = true → next.timezone.zone = config.options.timezone.zone)

instance (config : Configuration) (next : ModuleOptions) : Decidable (config.KeepsZone next) :=
  inferInstanceAs (Decidable (_ ∧ _))

/-- The mapping settles the zone and whether it is imposed: it holds time zone options that were
converted before, or it gives whatever differs from the default in the options in force. -/
def SettlesZone (config : Configuration) (fields : Fields Value) : Prop :=
  (∃ part, fields.get? "timezone" = some (.timezoneOptions part)) ∨
    ((partFields fields "timezone").has "type" = true ∨
        config.options.timezone.zone = ModuleOptions.default.timezone.zone) ∧
      ((partFields fields "timezone").has "strict" = true ∨
        config.options.timezone.strict = ModuleOptions.default.timezone.strict)

/-- The zone of options is accepted exactly when these options keep the zone in force. -/
theorem acceptsZone_eq_true_iff (config : Configuration) (options : ModuleOptions) :
    config.acceptsZone (.text options.timezone.zone) (.bool options.timezone.strict) = true ↔
      config.KeepsZone options := by
  simp [acceptsZone, KeepsZone, Value.isTruthy, Value.text?, Decidable.imp_iff_not_or]

section verdicts

variable {config next : Configuration} {fields : Fields Value} {patch : ModulePatch}

/-- A verdict on a mapping is one on the options that are read from it without its nulls. -/
theorem accepts_mapping_eq_ok_iff {verdict : Bool} :
    config.accepts (.mapping fields) = .ok verdict ↔
      ∃ patch, ModulePatch.ofFields (mergeFields [] fields) = .ok patch ∧
        config.acceptsZone (.text patch.fill.timezone.zone) (.bool patch.fill.timezone.strict) =
          verdict := by
  rw [accepts, bind_eq_ok]
  constructor
  · rintro ⟨options, hOptions, hVerdict⟩
    obtain ⟨patch, hPatch, rfl⟩ := completeOptions_eq_ok hOptions
    exact ⟨patch, hPatch, Except.ok.inj hVerdict⟩
  · rintro ⟨patch, hPatch, rfl⟩
    exact ⟨patch.fill, by rw [completeOptions, hPatch], rfl⟩

/-- What can be laid over options is read over those in force. -/
theorem exists_ofFields_of_overlay {base : ModuleOptions}
    (h : Configuration.overlay base (.mapping fields) = .ok next) :
    ∃ merged, ModulePatch.ofFields (mergeFields base.toFields fields) = .ok merged := by
  simp only [Configuration.overlay, partialFields, ok_bind, bind_eq_ok] at h
  obtain ⟨options, hOptions, -⟩ := h
  obtain ⟨merged, hMerged, -⟩ := completeOptions_eq_ok hOptions
  exact ⟨merged, hMerged⟩

/-- **When there is a verdict.** Options that an update would accept get a verdict exactly if they can
be read on their own. -/
theorem isOk_accepts_iff (hNames : HaveDistinctNames fields)
    (h : config.updateOptions (.mapping fields) = .ok next) :
    (∃ verdict, config.accepts (.mapping fields) = .ok verdict) ↔ ¬ HoldsUnreadable fields := by
  obtain ⟨merged, hMerged⟩ := exists_ofFields_of_overlay h
  rw [← exists_ofFields_stripped_iff hNames hMerged]
  constructor
  · rintro ⟨verdict, hVerdict⟩
    obtain ⟨patch, hPatch, -⟩ := accepts_mapping_eq_ok_iff.1 hVerdict
    exact ⟨patch, hPatch⟩
  · rintro ⟨patch, hPatch⟩
    exact ⟨_, accepts_mapping_eq_ok_iff.2 ⟨patch, hPatch, rfl⟩⟩

/-- If the mapping settles the zone, the options in force and the defaults have the same zone under
it. -/
theorem SettlesZone.under_eq (hSettles : config.SettlesZone fields)
    (hNames : (Fields.names fields).Nodup)
    (h : ModulePatch.ofFields (mergeFields [] fields) = .ok patch) :
    (config.options.under patch (mergeFields [] fields)).timezone.zone =
        (ModuleOptions.default.under patch (mergeFields [] fields)).timezone.zone ∧
      (config.options.under patch (mergeFields [] fields)).timezone.strict =
        (ModuleOptions.default.under patch (mergeFields [] fields)).timezone.strict := by
  simp only [ModuleOptions.under]
  rcases config.options.timezone.under_cases (patch.timezone.getD {})
    (Fields.get? (mergeFields [] fields) "timezone") with ⟨part, hValue, -⟩ | ⟨hNot, hZone, hStrict⟩
  · rw [hValue]
    exact ⟨rfl, rfl⟩
  · rcases ModuleOptions.default.timezone.under_cases (patch.timezone.getD {})
      (Fields.get? (mergeFields [] fields) "timezone") with ⟨part, hValue, -⟩ | ⟨-, hZone', hStrict'⟩
    · exact absurd hValue (hNot part)
    · obtain ⟨hHasZone, hHasStrict⟩ := timezone_of_ofFields_stripped hNames h
      rw [hZone, hZone', hStrict, hStrict']
      rcases hSettles with ⟨part, hPart⟩ | ⟨hType, hImposed⟩
      · refine absurd ?_ (hNot part)
        rw [get?_stripped hNames, supplied?, hPart]
        rfl
      · exact ⟨getD_eq_getD (hType.imp_left hHasZone), getD_eq_getD (hImposed.imp_left hHasStrict)⟩

/-- Whether options keep the zone in force depends on their zone and on whether it is imposed. -/
theorem KeepsZone.congr {first second : ModuleOptions}
    (hZone : first.timezone.zone = second.timezone.zone)
    (hStrict : first.timezone.strict = second.timezone.strict) :
    config.KeepsZone first ↔ config.KeepsZone second := by
  rw [KeepsZone, KeepsZone, hZone, hStrict]

/-- **Verdicts.** Let an update with a mapping be accepted.  There is a verdict on the mapping unless a
part of it cannot be read on its own.  It tells whether the options keep the zone in force if the given
ones are set, and if the mapping settles the zone, whether they keep it after the update. -/
theorem accepts_foresees_setting (config : Configuration) {next : Configuration}
    {fields : Fields Value} (hNames : HaveDistinctNames fields)
    (h : config.updateOptions (.mapping fields) = .ok next) :
    ((∃ error, config.accepts (.mapping fields) = .error error) ↔ HoldsUnreadable fields) ∧
    ∀ verdict, config.accepts (.mapping fields) = .ok verdict →
      (∃ replaced, config.setOptions (.mapping fields) = .ok replaced ∧
        (verdict = true ↔ config.KeepsZone replaced.options)) ∧
      (config.SettlesZone fields → (verdict = true ↔ config.KeepsZone next.options)) := by
  constructor
  · rw [← not_iff_not, ← isOk_accepts_iff hNames h]
    cases config.accepts (.mapping fields) <;> simp
  · intro verdict hVerdict
    obtain ⟨patch, hPatch, rfl⟩ := accepts_mapping_eq_ok_iff.1 hVerdict
    have hOverlay : ∀ base, overlay base (.mapping fields) =
        .ok ⟨base.under patch (mergeFields [] fields)⟩ := by
      intro base
      rw [← overlay_stripped base hNames, overlay_mapping base hNames.stripped hPatch]
    obtain ⟨hZone, hStrict⟩ := under_default_of_ofFields hPatch
    rw [acceptsZone_eq_true_iff, ← KeepsZone.congr hZone hStrict]
    refine ⟨⟨_, hOverlay .default, Iff.rfl⟩, fun hSettles => ?_⟩
    obtain rfl := Except.ok.inj (h.symm.trans (hOverlay config.options))
    obtain ⟨hSameZone, hSameStrict⟩ := hSettles.under_eq hNames.names hPatch
    exact (KeepsZone.congr hSameZone hSameStrict).symm

end verdicts

/-- A mapping of time zone options only. -/
def ofTimezone (own : Fields Value) : Fields Value :=
  [("timezone", .mapping own)]

/-- The zone of Tokyo, imposed on all tasks. -/
def tokyoImposed : Fields Value :=
  ofTimezone [("type", .text "Asia/Tokyo"), ("strict", .bool true)]

/-- Where Paris is imposed it is found out that Tokyo, imposed as well, does not keep the zone. -/
theorem accepts_foresees_setting_tokyoImposed :
    ¬ HoldsUnreadable tokyoImposed ∧ parisImposed.accepts (.mapping tokyoImposed) = .ok false ∧
      ∃ next, parisImposed.updateOptions (.mapping tokyoImposed) = .ok next ∧
        ¬ parisImposed.KeepsZone next.options := by
  have hNames : HaveDistinctNames tokyoImposed := by
    refine haveDistinctNames_timezone ?_
    rintro own ⟨⟩
    simp [Fields.names]
  have hUpdate : parisImposed.updateOptions (.mapping tokyoImposed) =
      .ok ⟨{ parisImposed.options with timezone := ⟨"Asia/Tokyo", true, true⟩ }⟩ := by rfl
  have hVerdict : parisImposed.accepts (.mapping tokyoImposed) = .ok false := by rfl
  have hSettles : parisImposed.SettlesZone tokyoImposed := .inr ⟨.inl rfl, .inl rfl⟩
  obtain ⟨hFault, hForesees⟩ := accepts_foresees_setting parisImposed hNames hUpdate
  obtain ⟨-, hKeeps⟩ := hForesees false hVerdict
  refine ⟨?_, hVerdict, _, hUpdate, ?_⟩
  · rw [← hFault, hVerdict]
    rintro ⟨_, ⟨⟩⟩
  · rw [← hKeeps hSettles]
    exact Bool.false_ne_true

/-- **Updates that are not foretold.** Where Paris is imposed a change to Tokyo is found compatible,
though Tokyo is imposed after it.  Where Paris is not imposed it is found incompatible to impose what is
in force.  And a `null` that leaves the zone as it is gets no verdict. -/
theorem accepts_misleads :
    (∃ next, parisImposed.updateOptions (.mapping (ofTimezone [("type", .text "Asia/Tokyo")])) =
        .ok next ∧
      parisImposed.accepts (.mapping (ofTimezone [("type", .text "Asia/Tokyo")])) = .ok true ∧
      ¬ parisImposed.KeepsZone next.options) ∧
    (∃ paris, initial.updateOptions (.mapping (ofTimezone [("type", .text "Europe/Paris")])) =
        .ok paris ∧
      ∃ next, paris.updateOptions (.mapping (ofTimezone [("strict", .bool true)])) = .ok next ∧
        paris.accepts (.mapping (ofTimezone [("strict", .bool true)])) = .ok false ∧
        paris.KeepsZone next.options) ∧
    (initial.updateOptions (.mapping (ofTimezone [("type", .null)])) = .ok initial ∧
      ∃ error, initial.accepts (.mapping (ofTimezone [("type", .null)])) = .error error) := by
  exact ⟨⟨_, rfl, rfl, by decide⟩, ⟨_, rfl, _, rfl, rfl, by decide⟩, rfl, _, rfl⟩

end Configuration

end Crontab
