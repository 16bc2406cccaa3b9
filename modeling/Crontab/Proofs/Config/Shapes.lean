import Crontab.Proofs.Config.Overrides

/-!
# Shapes of partial options

The same options can be given in several shapes: as options that were converted before, as mappings with
the flag for validation under its short or its long name, or as a mapping of parts that were converted
before.  All of them are read as the same patch, but not all of them have the same effect: the long
name loses the flag, and a part that was converted before replaces what is in force as a whole.

* `IsShortNamed`, `IsLongNamed`, `HoldsModels` — the shapes of mappings;
* `under_of_isShortNamed`, `under_of_isLongNamed`, `under_of_holdsModels` — their effects;
* `Configuration.changes_by_shape` — the options after a change in each of the shapes;
* `Configuration.longName_lost` — two shapes of the same options with different effects.
-/

namespace Crontab

/-! ## Shapes -/

/-- The mapping holds mappings in the places of its parts. -/
def HoldsMappings (fields : Fields Value) : Prop :=
  ∀ part ∈ ["storage", "timezone"], ∀ value, fields.get? part = some value →
    ∃ own, value = .mapping own

/-- The mapping holds options that were converted before in the places of its parts. -/
structure HoldsModels (fields : Fields Value) : Prop where
  storage : ∀ value, fields.get? "storage" = some value → ∃ part, value = .storageOptions part
  timezone : ∀ value, fields.get? "timezone" = some value → ∃ part, value = .timezoneOptions part

/-- The mapping holds mappings for its parts, and the flag for validation, if at all, under its short
name. -/
structure IsShortNamed (fields : Fields Value) : Prop where
  mappings : HoldsMappings fields
  flag : (partFields fields "timezone").has "validate_timezone" = false

/-- The mapping holds mappings for its parts, and the flag for validation, if at all, under its long
name. -/
structure IsLongNamed (fields : Fields Value) : Prop where
  mappings : HoldsMappings fields
  flag : (partFields fields "timezone").has "validate" = false

/-- The patch without the flag for validation. -/
def ModulePatch.withoutFlag (patch : ModulePatch) : ModulePatch :=
  { patch with timezone := patch.timezone.map fun part => { part with validate := none } }

/-- The options with those of a patch in their place, and its parts in the place of whole parts. -/
def ModulePatch.replacing (patch : ModulePatch) (base : ModuleOptions) : ModuleOptions :=
  { patch.laidOver base with
    storage := (patch.storage.map StoragePatch.fill).getD base.storage
    timezone := (patch.timezone.map TimezonePatch.fill).getD base.timezone }

/-- If the patch gives the flag for validation, it is in force already. -/
def ModulePatch.KeepsFlag (patch : ModulePatch) (base : ModuleOptions) : Prop :=
  ∀ part, patch.timezone = some part → ∀ flag, part.validate = some flag →
    flag = base.timezone.validate

/-! ## Effects -/

section effects

variable {fields own : Fields Value} {patch : ModulePatch}

/-- Without the long name all that is read counts. -/
theorem TimezonePatch.counted_of_short {part : TimezonePatch} (h : TimezonePatch.ofFields own = .ok part)
    (hFlag : own.has "validate_timezone" = false) : part.counted own = part := by
  simp only [TimezonePatch.ofFields, map_eq_ok, Prod.exists, Checked.both_eq_ok] at h
  obtain ⟨zone, validate, strict, ⟨⟨-, hValidate⟩, -⟩, rfl⟩ := h
  rw [counted]
  split
  · rfl
  · next hShort =>
    rw [checkValidate, if_neg hShort, checkField] at hValidate
    have hNone : own.get? "validate_timezone" = none := by
      rwa [Fields.has, Option.isSome_eq_false_iff, Option.isNone_iff_eq_none] at hFlag
    rw [hNone] at hValidate
    obtain rfl := Except.ok.inj hValidate
    rfl

/-- Mappings of storage options are laid over those in force. -/
theorem storage_under_of_holdsMappings (base : StorageOptions) (hShape : HoldsMappings fields)
    (part : StoragePatch) : base.under part (fields.get? "storage") = part.laidOver base := by
  cases hValue : fields.get? "storage" with
  | none => rfl
  | some value =>
    obtain ⟨own, rfl⟩ := hShape "storage" (by simp) value hValue
    rfl

/-- Mappings with short names are laid over options as the patch that is read from them. -/
theorem under_of_isShortNamed (base : ModuleOptions) (hShape : IsShortNamed fields)
    (h : ModulePatch.ofFields fields = .ok patch) : base.under patch fields = patch.laidOver base := by
  obtain ⟨-, hTimezone⟩ := ModulePatch.parts_of_ofFields h
  have hPart : base.timezone.under (patch.timezone.getD {}) (fields.get? "timezone") =
      (patch.timezone.getD {}).laidOver base.timezone := by
    rcases checkPart_cases hTimezone with ⟨hNone, -⟩ | ⟨value, part, hValue, hRead, hFound⟩
    · rw [hNone]
      rfl
    · obtain ⟨own, rfl⟩ := hShape.mappings "timezone" (by simp) value hValue
      have hFlag := hShape.flag
      rw [partFields, hValue] at hFlag
      rw [hValue, hFound, Option.getD_some, TimezoneOptions.under,
        TimezonePatch.counted_of_short hRead hFlag]
  rw [ModuleOptions.under, storage_under_of_holdsMappings base.storage hShape.mappings, hPart]
  rfl

/-- Mappings with long names are laid over options without the flag for validation. -/
theorem under_of_isLongNamed (base : ModuleOptions) (hShape : IsLongNamed fields)
    (h : ModulePatch.ofFields fields = .ok patch) :
    base.under patch fields = patch.withoutFlag.laidOver base := by
  obtain ⟨-, hTimezone⟩ := ModulePatch.parts_of_ofFields h
  have hPart : base.timezone.under (patch.timezone.getD {}) (fields.get? "timezone") =
      (patch.withoutFlag.timezone.getD {}).laidOver base.timezone := by
    rcases checkPart_cases hTimezone with ⟨hNone, hFound⟩ | ⟨value, part, hValue, hRead, hFound⟩
    · rw [hNone, ModulePatch.withoutFlag, hFound]
      rfl
    · obtain ⟨own, rfl⟩ := hShape.mappings "timezone" (by simp) value hValue
      have hFlag := hShape.flag
      rw [partFields, hValue] at hFlag
      rw [hValue, ModulePatch.withoutFlag, hFound, Option.getD_some, TimezoneOptions.under,
        TimezonePatch.counted, if_neg (Bool.eq_false_iff.1 hFlag)]
      rfl
  rw [ModuleOptions.under, storage_under_of_holdsMappings base.storage hShape.mappings, hPart]
  rfl

/-- Parts that were converted before replace those in force. -/
theorem under_of_holdsModels (base : ModuleOptions) (hShape : HoldsModels fields)
    (h : ModulePatch.ofFields fields = .ok patch) :
    base.under patch fields = patch.replacing base := by
  obtain ⟨hStorage, hTimezone⟩ := ModulePatch.parts_of_ofFields h
  have hFirst : base.storage.under (patch.storage.getD {}) (fields.get? "storage") =
      (patch.storage.map StoragePatch.fill).getD base.storage := by
    rcases checkPart_cases hStorage with ⟨hNone, hFound⟩ | ⟨value, part, hValue, hPart, hFound⟩
    · rw [hNone, hFound]
      rfl
    · obtain ⟨given, rfl⟩ := hShape.storage value hValue
      obtain rfl := Except.ok.inj hPart
      rw [hValue, hFound]
      rfl
  have hSecond : base.timezone.under (patch.timezone.getD {}) (fields.get? "timezone") =
      (patch.timezone.map TimezonePatch.fill).getD base.timezone := by
    rcases checkPart_cases hTimezone with ⟨hNone, hFound⟩ | ⟨value, part, hValue, hPart, hFound⟩
    · rw [hNone, hFound]
      rfl
    · obtain ⟨given, rfl⟩ := hShape.timezone value hValue
      obtain rfl := Except.ok.inj hPart
      rw [hValue, hFound]
      rfl
  rw [ModuleOptions.under, hFirst, hSecond]
  rfl

/-- Over the defaults it makes no difference whether parts are replaced. -/
theorem ModulePatch.replacing_default (patch : ModulePatch) :
    patch.replacing .default = patch.laidOver .default := by
  have hStorage : (patch.storage.map StoragePatch.fill).getD ModuleOptions.default.storage =
      (patch.storage.getD {}).laidOver ModuleOptions.default.storage := by
    rw [StoragePatch.laidOver_default]
    cases patch.storage <;> rfl
  have hTimezone : (patch.timezone.map TimezonePatch.fill).getD ModuleOptions.default.timezone =
      (patch.timezone.getD {}).laidOver ModuleOptions.default.timezone := by
    rw [TimezonePatch.laidOver_default]
    cases patch.timezone <;> rfl
  rw [replacing, hStorage, hTimezone]
  rfl

/-- Without its flag a patch has the same effect exactly if the flag is in force already. -/
theorem ModulePatch.withoutFlag_laidOver_eq_iff (patch : ModulePatch) (base : ModuleOptions) :
    patch.withoutFlag.laidOver base = patch.laidOver base ↔ patch.KeepsFlag base := by
  obtain ⟨serverTasks, tasksDir, storage, timezone⟩ := patch
  rcases timezone with _ | ⟨zone, _ | flag, strict⟩
  · simp [withoutFlag, KeepsFlag, laidOver]
  · simp [withoutFlag, KeepsFlag, laidOver]
  · have hKeeps : KeepsFlag ⟨serverTasks, tasksDir, storage, some ⟨zone, some flag, strict⟩⟩ base ↔
        base.timezone.validate = flag := by
      constructor
      · intro h
        exact (h _ rfl flag rfl).symm
      · rintro rfl _ ⟨⟩ _ ⟨⟩
        rfl
    rw [hKeeps]
    simp [withoutFlag, laidOver, TimezonePatch.laidOver]

end effects

/-! ## Changes -/

namespace Configuration

/-- **Shapes.** Let a mapping be read as a patch.  The patch itself and mappings with short names have
the same effect on every configuration: the options of the patch take the place of those in force, or
of the defaults.  Mappings with long names lose the flag for validation, and have the same effect
exactly if that flag is in force already.  Parts that were converted before have the same effect if
options are set, but in an update they replace the parts in force as a whole. -/
theorem changes_by_shape (config : Configuration) {fields : Fields Value} {patch : ModulePatch}
    (hNames : HaveDistinctNames fields) (h : ModulePatch.ofFields fields = .ok patch) :
    (config.updateOptions (.moduleOptions patch) = .ok ⟨patch.laidOver config.options⟩ ∧
      config.setOptions (.moduleOptions patch) = .ok ⟨patch.laidOver .default⟩) ∧
    (IsShortNamed fields →
      config.updateOptions (.mapping fields) = .ok ⟨patch.laidOver config.options⟩ ∧
        config.setOptions (.mapping fields) = .ok ⟨patch.laidOver .default⟩) ∧
    (IsLongNamed fields →
      config.updateOptions (.mapping fields) = .ok ⟨patch.withoutFlag.laidOver config.options⟩ ∧
        config.setOptions (.mapping fields) = .ok ⟨patch.withoutFlag.laidOver .default⟩ ∧
        (config.updateOptions (.mapping fields) = config.updateOptions (.moduleOptions patch) ↔
          patch.KeepsFlag config.options) ∧
        (config.setOptions (.mapping fields) = config.setOptions (.moduleOptions patch) ↔
          patch.KeepsFlag .default)) ∧
    (HoldsModels fields →
      config.updateOptions (.mapping fields) = .ok ⟨patch.replacing config.options⟩ ∧
        config.setOptions (.mapping fields) = .ok ⟨patch.laidOver .default⟩) := by
  have hUpdate : config.updateOptions (.mapping fields) = .ok ⟨config.options.under patch fields⟩ :=
    overlay_mapping config.options hNames h
  have hSet : config.setOptions (.mapping fields) = .ok ⟨ModuleOptions.default.under patch fields⟩ :=
    overlay_mapping .default hNames h
  have hUpdatePatch : config.updateOptions (.moduleOptions patch) =
      .ok ⟨patch.laidOver config.options⟩ :=
    overlay_moduleOptions config.options patch
  have hSetPatch : config.setOptions (.moduleOptions patch) = .ok ⟨patch.laidOver .default⟩ :=
    overlay_moduleOptions .default patch
  refine ⟨⟨hUpdatePatch, hSetPatch⟩, fun hShape => ?_, fun hShape => ?_, fun hShape => ?_⟩
  · rw [hUpdate, hSet, under_of_isShortNamed _ hShape h, under_of_isShortNamed _ hShape h]
    exact ⟨rfl, rfl⟩
  · rw [hUpdate, hSet, hUpdatePatch, hSetPatch, under_of_isLongNamed _ hShape h,
      under_of_isLongNamed _ hShape h]
    refine ⟨rfl, rfl, ?_, ?_⟩
    · rw [Except.ok.injEq, Configuration.mk.injEq, ModulePatch.withoutFlag_laidOver_eq_iff]
    · rw [Except.ok.injEq, Configuration.mk.injEq, ModulePatch.withoutFlag_laidOver_eq_iff]
  · rw [hUpdate, hSet, under_of_holdsModels _ hShape h, under_of_holdsModels _ hShape h,
      ModulePatch.replacing_default]
    exact ⟨rfl, rfl⟩

/-- The zone of Paris, imposed on all tasks. -/
def parisImposed : Configuration :=
  ⟨{ ModuleOptions.default with timezone := ⟨"Europe/Paris", true, true⟩ }⟩

/-- The zone of Tokyo, without validation of zones. -/
def uncheckedTokyo : TimezonePatch :=
  { zone := some "Asia/Tokyo", validate := some false }

/-- The zone of Tokyo without validation as a mapping, with the flag under a given name. -/
def uncheckedTokyoUnder (flag : String) : Fields Value :=
  [("timezone", .mapping [("type", .text "Asia/Tokyo"), (flag, .bool false)])]

/-- The zone of Tokyo without validation as options that were converted before. -/
def uncheckedTokyoModel : Fields Value :=
  [("timezone", .timezoneOptions uncheckedTokyo)]

/-- A part for time zones with distinct names, and no other part, has distinct names. -/
theorem haveDistinctNames_timezone {value : Value}
    (h : ∀ own, value = .mapping own → (Fields.names own).Nodup) :
    HaveDistinctNames [("timezone", value)] where
  names := by simp [Fields.names]
  parts := by
    intro part own hPart
    obtain ⟨-, hValue⟩ := Prod.mk.inj (List.mem_singleton.1 (Fields.mem_of_get? hPart))
    exact h own hValue.symm

/-- A mapping for time zones, and no other part, holds mappings only. -/
theorem holdsMappings_timezone (own : Fields Value) :
    HoldsMappings [("timezone", .mapping own)] := by
  intro part _ value hValue
  obtain ⟨-, hOwn⟩ := Prod.mk.inj (List.mem_singleton.1 (Fields.mem_of_get? hValue))
  exact ⟨own, hOwn⟩

/-- Where Paris is imposed, Tokyo without validation is imposed by the short name, Tokyo with
validation by the long one, and Tokyo is not imposed by options that were converted before. -/
theorem changes_by_shape_uncheckedTokyo :
    parisImposed.updateOptions (.mapping (uncheckedTokyoUnder "validate")) =
        .ok ⟨{ parisImposed.options with timezone := ⟨"Asia/Tokyo", false, true⟩ }⟩ ∧
      parisImposed.updateOptions (.mapping (uncheckedTokyoUnder "validate_timezone")) =
        .ok ⟨{ parisImposed.options with timezone := ⟨"Asia/Tokyo", true, true⟩ }⟩ ∧
      parisImposed.updateOptions (.mapping uncheckedTokyoModel) =
        .ok ⟨{ parisImposed.options with timezone := ⟨"Asia/Tokyo", false, false⟩ }⟩ := by
  have hNames : ∀ flag, flag ≠ "type" → HaveDistinctNames (uncheckedTokyoUnder flag) := by
    intro flag hFlag
    refine haveDistinctNames_timezone ?_
    rintro own ⟨⟩
    simpa [Fields.names] using hFlag.symm
  have hModelNames : HaveDistinctNames uncheckedTokyoModel :=
    haveDistinctNames_timezone (by rintro _ ⟨⟩)
  have hShort : IsShortNamed (uncheckedTokyoUnder "validate") := ⟨holdsMappings_timezone _, by decide⟩
  have hLong : IsLongNamed (uncheckedTokyoUnder "validate_timezone") :=
    ⟨holdsMappings_timezone _, by decide⟩
  have hModel : HoldsModels uncheckedTokyoModel := by
    refine ⟨by rintro _ ⟨⟩, fun value hValue => ⟨uncheckedTokyo, ?_⟩⟩
    exact (Option.some.inj hValue).symm
  have hReadShort : ModulePatch.ofFields (uncheckedTokyoUnder "validate") =
      .ok { timezone := some uncheckedTokyo } := by rfl
  have hReadLong : ModulePatch.ofFields (uncheckedTokyoUnder "validate_timezone") =
      .ok { timezone := some uncheckedTokyo } := by rfl
  have hReadModel : ModulePatch.ofFields uncheckedTokyoModel =
      .ok { timezone := some uncheckedTokyo } := by rfl
  obtain ⟨-, hByShort, -⟩ := changes_by_shape parisImposed (hNames _ (by decide)) hReadShort
  obtain ⟨-, -, hByLong, -⟩ := changes_by_shape parisImposed (hNames _ (by decide)) hReadLong
  obtain ⟨-, -, -, hByModel⟩ := changes_by_shape parisImposed hModelNames hReadModel
  exact ⟨(hByShort hShort).1, (hByLong hLong).1, (hByModel hModel).1⟩

/-- **What is lost.** Mappings with the flag for validation under its two names are read as the same
patch, but under its long name it is lost whether options are updated or set.  And a zone that was
converted before takes the flag that imposes it out of force, while the same zone in a mapping does
not. -/
theorem longName_lost :
    ModulePatch.ofFields (uncheckedTokyoUnder "validate_timezone") =
        ModulePatch.ofFields (uncheckedTokyoUnder "validate") ∧
      initial.updateOptions (.mapping (uncheckedTokyoUnder "validate_timezone")) ≠
        initial.updateOptions (.mapping (uncheckedTokyoUnder "validate")) ∧
      initial.setOptions (.mapping (uncheckedTokyoUnder "validate_timezone")) ≠
        initial.setOptions (.mapping (uncheckedTokyoUnder "validate")) ∧
      ModulePatch.ofFields uncheckedTokyoModel =
        ModulePatch.ofFields (uncheckedTokyoUnder "validate") ∧
      parisImposed.updateOptions (.mapping uncheckedTokyoModel) ≠
        parisImposed.updateOptions (.mapping (uncheckedTokyoUnder "validate")) := by
  refine ⟨rfl, ?_, ?_, rfl, ?_⟩ <;> decide

end Configuration

end Crontab
