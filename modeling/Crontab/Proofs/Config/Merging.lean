import Crontab.Proofs.Config.Compatibility
import Crontab.Proofs.Value.Proper

/-!
# Mergers one after the other

Nested mappings are laid over a base one after the other.  It makes no difference if they are merged
with each other before, and none if the same one is laid over the base once more.  The order of the
fields may differ, so that mappings are compared by what they hold at the end of every path of names.

The one thing that has to be excluded is that the first mapping puts a single value in the place of a
mapping: a mapping that is laid over both of them would then meet the single value in one case and the
mapping behind it in the other.

* `Value.at?`, `EqualMappings` — paths of names, and mappings that are equal up to order;
* `SparesMappings` — a mapping that puts no single value in the place of a mapping;
* `mergeFields_assoc`, `mergeFields_absorb` — mergers in another grouping, and twice the same one;
* `ModulePatch.ofFields_congr` — equal mappings are read in the same way;
* `ModulePatch.ofFields_reread` — options that were read in between are as good as their mapping;
* `sparesMappings_options` — the mappings that spare the parts of options;
* `Configuration.updateOptions_merged`, `Configuration.updateOptions_again` — two updates, and a single
  one with both;
* `Configuration.successive_eq_merged` — mergers and updates together.
-/

namespace Crontab

/-! ## Paths of names -/

/-- What stands at the end of a path of names that leads through nested mappings. -/
def Value.at? : Value → List String → Option Value
  | value, [] => some value
  | .mapping fields, name :: path => (Fields.get? fields name).bind fun part => part.at? path
  | _, _ :: _ => none

/-- A value without what is in it, if it is a mapping. -/
def Value.surface : Value → Value
  | .mapping _ => .mapping []
  | value => value

/-- What shows at the end of a path of names. -/
def Value.shown? (value : Value) (path : List String) : Option Value :=
  (value.at? path).map Value.surface

/-- The mappings are equal, whatever the order of their fields: at the end of every path both have a
mapping, both the same other value, or both nothing. -/
def EqualMappings (fields others : Fields Value) : Prop :=
  ∀ path, (Value.mapping fields).shown? path = (Value.mapping others).shown? path

/-- A value that is neither a mapping nor `null`. -/
def Value.IsSingle (value : Value) : Prop :=
  value.isNull = false ∧ ∀ fields, value ≠ .mapping fields

/-- The given mapping puts no single value in the place of a mapping: no path leads to a mapping in
the base and to a single value in the given one. -/
def SparesMappings (given base : Fields Value) : Prop :=
  ∀ path own value, (Value.mapping base).at? path = some (.mapping own) →
    (Value.mapping given).at? path = some value → ¬ value.IsSingle

section paths

variable {fields others given base own inner : Fields Value} {name : String} {path : List String}

/-- A path into a mapping leads to what its first name holds and goes on from there. -/
theorem Value.at?_cons :
    (Value.mapping fields).at? (name :: path) =
      (Fields.get? fields name).bind fun part => part.at? path := by
  rw [Value.at?]

/-- What shows at the end of a path into a mapping shows from what its first name holds. -/
theorem Value.shown?_cons :
    (Value.mapping fields).shown? (name :: path) =
      (Fields.get? fields name).bind fun part => part.shown? path := by
  rw [Value.shown?, Value.at?_cons]
  cases Fields.get? fields name <;> rfl

/-- Of mappings themselves no more shows than that they are mappings. -/
theorem Value.shown?_nil (fields others : Fields Value) :
    (Value.mapping fields).shown? [] = (Value.mapping others).shown? [] := by
  simp only [shown?, at?, Option.map_some, surface]

/-- A path of one name leads to what a mapping holds under it. -/
theorem Value.at?_single : (Value.mapping fields).at? [name] = Fields.get? fields name := by
  rw [Value.at?_cons]
  cases hValue : Fields.get? fields name with
  | none => rfl
  | some value => rw [Option.bind_some, Value.at?]

/-- What is in the mappings of a mapping is spared as well. -/
theorem SparesMappings.within (h : SparesMappings given base)
    (hGiven : given.get? name = some (.mapping inner)) (hBase : base.get? name = some (.mapping own)) :
    SparesMappings inner own := by
  intro path held value hHeld hValue
  refine h (name :: path) held value ?_ ?_
  · rwa [Value.at?_cons, hBase]
  · rwa [Value.at?_cons, hGiven]

/-- Where a single value is given, the base holds no mapping. -/
theorem SparesMappings.not_mapping (h : SparesMappings given base) {value : Value}
    (hGiven : given.get? name = some value) (hSingle : value.IsSingle) :
    ∀ own, base.get? name ≠ some (.mapping own) := by
  intro own hBase
  exact h [name] own value (Value.at?_single.trans hBase) (Value.at?_single.trans hGiven) hSingle

end paths

/-! ## Mergers name by name -/

/-- What a name holds after a merger, by what it held and what is given for it. -/
def mergeHeld (old given : Option Value) : Option Value :=
  match given.filter (!·.isNull) with
  | some value => some (mergeValue old value)
  | none => old

section held

variable {old given : Option Value} {value : Value} {own fields : Fields Value}

/-- A merged mapping holds under a name what the merger makes of both mappings there. -/
theorem get?_mergeFields_eq_mergeHeld {base : Fields Value} {name : String}
    (hNames : (Fields.names fields).Nodup) :
    Fields.get? (mergeFields base fields) name = mergeHeld (base.get? name) (fields.get? name) :=
  get?_mergeFields hNames

/-- A name is given nothing, a mapping or a single value. -/
theorem given_cases (given : Option Value) :
    given.filter (!·.isNull) = none ∨ (∃ own, given = some (.mapping own)) ∨
      ∃ value, given = some value ∧ value.IsSingle := by
  rcases given with _ | value
  · exact .inl rfl
  · cases value with
    | null => exact .inl rfl
    | mapping own => exact .inr (.inl ⟨own, rfl⟩)
    | _ => exact .inr (.inr ⟨_, rfl, rfl, nofun⟩)

/-- Where nothing is given, a merger leaves what was there. -/
theorem mergeHeld_of_nothing (h : given.filter (!·.isNull) = none) (old : Option Value) :
    mergeHeld old given = old := by
  rw [mergeHeld, h]

/-- A single value that is given takes the place of what was there. -/
theorem mergeHeld_single (h : value.IsSingle) (old : Option Value) :
    mergeHeld old (some value) = some value := by
  rw [mergeHeld, Option.filter_some, h.1]
  exact congrArg some (mergeValue_of_plain h.2 old)

/-- A mapping that is given is merged into the mapping that was there. -/
theorem mergeHeld_mapping (own fields : Fields Value) :
    mergeHeld (some (.mapping own)) (some (.mapping fields)) =
      some (.mapping (mergeFields own fields)) := by
  rw [mergeHeld, Option.filter_some]
  exact congrArg some (by rw [mergeValue])

/-- A mapping takes the place of anything but a mapping as a whole. -/
theorem mergeHeld_of_not_mapping (h : ∀ own, old ≠ some (.mapping own)) (fields : Fields Value) :
    mergeHeld old (some (.mapping fields)) = some (.mapping fields) :=
  congrArg some (mergeValue_of_not_mapping h (.mapping fields))

/-- What a name holds is a mapping or it is none. -/
theorem mapping_or_not (old : Option Value) :
    (∃ own, old = some (.mapping own)) ∨ ∀ own, old ≠ some (.mapping own) := by
  by_cases h : ∃ own, old = some (.mapping own)
  · exact .inl h
  · exact .inr fun own hOwn => h ⟨own, hOwn⟩

end held

/-! ## Another grouping -/

section grouping

variable {base first second : Fields Value}

/-- By induction on the path the two groupings show the same.  Only where all three hold mappings does
the path go on; everywhere else the two hold the very same value. -/
theorem shown?_mergeFields_assoc (path : List String) (hFirst : (Value.mapping first).IsProper)
    (hSecond : (Value.mapping second).IsProper) (hSpares : SparesMappings first base) :
    (Value.mapping (mergeFields (mergeFields base first) second)).shown? path =
      (Value.mapping (mergeFields base (mergeFields first second))).shown? path := by
  induction path generalizing base first second with
  | nil => exact Value.shown?_nil _ _
  | cons name path ih =>
    have hMerged := nodup_names_mergeFields hFirst.1 second
    rw [Value.shown?_cons, Value.shown?_cons, get?_mergeFields_eq_mergeHeld hSecond.1,
      get?_mergeFields_eq_mergeHeld hFirst.1, get?_mergeFields_eq_mergeHeld hMerged,
      get?_mergeFields_eq_mergeHeld hSecond.1]
    rcases given_cases (second.get? name) with hNothing | ⟨own, hOwn⟩ | ⟨value, hValue, hSingle⟩
    · rw [mergeHeld_of_nothing hNothing, mergeHeld_of_nothing hNothing]
    · rw [hOwn]
      rcases given_cases (first.get? name) with hNothing | ⟨middle, hMiddle⟩ | ⟨value, hValue, hSingle⟩
      · have hAbsent : ∀ other, first.get? name ≠ some (.mapping other) := by
          intro other hOther
          rw [hOther] at hNothing
          cases hNothing
        rw [mergeHeld_of_nothing hNothing, mergeHeld_of_not_mapping hAbsent]
      · rcases mapping_or_not (base.get? name) with ⟨old, hOld⟩ | hNot
        · rw [hMiddle, hOld, mergeHeld_mapping, mergeHeld_mapping, mergeHeld_mapping,
            mergeHeld_mapping]
          exact ih (hFirst.2.get? hMiddle) (hSecond.2.get? hOwn) (hSpares.within hMiddle hOld)
        · rw [hMiddle, mergeHeld_of_not_mapping hNot, mergeHeld_mapping, mergeHeld_of_not_mapping hNot]
      · have hOther : ∀ other, some value ≠ some (.mapping other) := fun other hEq =>
          hSingle.2 other (Option.some.inj hEq)
        rw [hValue, mergeHeld_single hSingle, mergeHeld_of_not_mapping hOther,
          mergeHeld_of_not_mapping (hSpares.not_mapping hValue hSingle)]
    · rw [hValue, mergeHeld_single hSingle, mergeHeld_single hSingle, mergeHeld_single hSingle]

/-- **Another grouping.** To lay two mappings over a base one after the other is to lay the second over
the first and the result over the base. -/
theorem mergeFields_assoc (hFirst : (Value.mapping first).IsProper)
    (hSecond : (Value.mapping second).IsProper) (hSpares : SparesMappings first base) :
    EqualMappings (mergeFields (mergeFields base first) second)
      (mergeFields base (mergeFields first second)) :=
  fun path => shown?_mergeFields_assoc path hFirst hSecond hSpares

/-- Laid over itself, a mapping stays as it is. -/
theorem mergeFields_self {fields : Fields Value} (h : (Value.mapping fields).IsProper) :
    EqualMappings (mergeFields fields fields) fields := by
  intro path
  induction path generalizing fields with
  | nil => exact Value.shown?_nil _ _
  | cons name path ih =>
    rw [Value.shown?_cons, Value.shown?_cons, get?_mergeFields_eq_mergeHeld h.1]
    rcases given_cases (fields.get? name) with hNothing | ⟨own, hOwn⟩ | ⟨value, hValue, hSingle⟩
    · rw [mergeHeld_of_nothing hNothing]
    · rw [hOwn, mergeHeld_mapping]
      exact ih (h.2.get? hOwn)
    · rw [hValue, mergeHeld_single hSingle]

/-- **Twice the same.** To lay a mapping over a base once more changes nothing. -/
theorem mergeFields_absorb (hSecond : (Value.mapping second).IsProper) :
    EqualMappings (mergeFields (mergeFields base second) second) (mergeFields base second) := by
  intro path
  induction path generalizing base second with
  | nil => exact Value.shown?_nil _ _
  | cons name path ih =>
    rw [Value.shown?_cons, Value.shown?_cons, get?_mergeFields_eq_mergeHeld hSecond.1,
      get?_mergeFields_eq_mergeHeld hSecond.1]
    rcases given_cases (second.get? name) with hNothing | ⟨own, hOwn⟩ | ⟨value, hValue, hSingle⟩
    · rw [mergeHeld_of_nothing hNothing, mergeHeld_of_nothing hNothing]
    · rw [hOwn]
      rcases mapping_or_not (base.get? name) with ⟨old, hOld⟩ | hNot
      · rw [hOld, mergeHeld_mapping, mergeHeld_mapping]
        exact ih (hSecond.2.get? hOwn)
      · rw [mergeHeld_of_not_mapping hNot, mergeHeld_mapping]
        exact mergeFields_self (hSecond.2.get? hOwn) path
    · rw [hValue, mergeHeld_single hSingle, mergeHeld_single hSingle]

end grouping

/-! ## Equal mappings are read alike -/

section congruence

variable {α : Type} {fields others : Fields Value} {name : String}
  {coerce : Value → Except OptionFault α} {convert : Value → Checked α}

/-- Values that look the same are both mappings or equal. -/
theorem Value.eq_of_surface_eq {value other : Value} (h : value.surface = other.surface) :
    (∃ own fields, value = .mapping own ∧ other = .mapping fields) ∨ value = other := by
  cases value with
  | mapping own =>
    cases other with
    | mapping fields => exact .inl ⟨own, fields, rfl, rfl⟩
    | _ => cases h
  | _ =>
    cases other with
    | mapping fields => cases h
    | _ => exact .inr h

/-- Under a name equal mappings have mappings that are equal again, or the same. -/
theorem EqualMappings.get?_cases (h : EqualMappings fields others) (name : String) :
    (∃ own other, fields.get? name = some (.mapping own) ∧ others.get? name = some (.mapping other) ∧
      EqualMappings own other) ∨ fields.get? name = others.get? name := by
  have hShown := h [name]
  rw [Value.shown?, Value.shown?, Value.at?_single, Value.at?_single] at hShown
  cases hField : fields.get? name with
  | none =>
    rw [hField, Option.map_none, eq_comm, Option.map_eq_none_iff] at hShown
    exact .inr hShown.symm
  | some value =>
    rw [hField, Option.map_some, eq_comm, Option.map_eq_some_iff] at hShown
    obtain ⟨other, hOther, hSurface⟩ := hShown
    rcases Value.eq_of_surface_eq hSurface with ⟨inner, own, rfl, rfl⟩ | rfl
    · refine .inl ⟨own, inner, rfl, hOther, fun path => ?_⟩
      have hPath := h (name :: path)
      rwa [Value.shown?_cons, Value.shown?_cons, hField, hOther] at hPath
    · exact .inr hOther.symm

/-- Equal mappings have the same names. -/
theorem EqualMappings.has_eq (h : EqualMappings fields others) (name : String) :
    fields.has name = others.has name := by
  rw [Fields.has, Fields.has]
  rcases h.get?_cases name with ⟨own, other, hField, hOther, -⟩ | hSame
  · rw [hField, hOther]
    rfl
  · rw [hSame]

/-- What is read does not depend on what is in a mapping that stands in the place of a value. -/
theorem EqualMappings.checkField_eq (h : EqualMappings fields others)
    (hMapping : ∀ own other, coerce (.mapping own) = coerce (.mapping other)) :
    checkField fields name coerce = checkField others name coerce := by
  rw [checkField, checkField]
  rcases h.get?_cases name with ⟨own, other, hField, hOther, -⟩ | hSame
  · simp only [hField, hOther, hMapping own other]
  · rw [hSame]

/-- The check of a part has one result for equal mappings if the conversion of parts has. -/
theorem EqualMappings.checkPart_eq (h : EqualMappings fields others)
    (hMapping : ∀ own other, EqualMappings own other →
      convert (.mapping own) = convert (.mapping other)) :
    checkPart fields name convert = checkPart others name convert := by
  rw [checkPart, checkPart]
  rcases h.get?_cases name with ⟨own, other, hField, hOther, hEqual⟩ | hSame
  · simp only [hField, hOther, hMapping own other hEqual]
  · rw [hSame]

/-- Equal mappings are read as the same storage options. -/
theorem StoragePatch.ofFields_congr (h : EqualMappings fields others) :
    StoragePatch.ofFields fields = StoragePatch.ofFields others := by
  rw [ofFields, ofFields, h.checkField_eq fun _ _ => rfl, h.checkField_eq fun _ _ => rfl,
    h.checkField_eq fun _ _ => rfl, h.checkField_eq fun _ _ => rfl, h.checkField_eq fun _ _ => rfl,
    h.checkField_eq fun _ _ => rfl, h.checkField_eq fun _ _ => rfl]

/-- Equal mappings are read as the same time zone options. -/
theorem TimezonePatch.ofFields_congr (h : EqualMappings fields others) :
    TimezonePatch.ofFields fields = TimezonePatch.ofFields others := by
  have hValidate : checkValidate fields = checkValidate others := by
    rw [checkValidate, checkValidate, h.has_eq, h.checkField_eq fun _ _ => rfl,
      h.checkField_eq fun _ _ => rfl]
  rw [ofFields, ofFields, hValidate, h.checkField_eq fun _ _ => rfl, h.checkField_eq fun _ _ => rfl]

/-- **Equal mappings are read alike.** -/
theorem ModulePatch.ofFields_congr (h : EqualMappings fields others) :
    ModulePatch.ofFields fields = ModulePatch.ofFields others := by
  rw [ofFields, ofFields, h.checkField_eq fun _ _ => rfl, h.checkField_eq fun _ _ => rfl,
    h.checkPart_eq fun _ _ => StoragePatch.ofFields_congr,
    h.checkPart_eq fun _ _ => TimezonePatch.ofFields_congr]

end congruence

/-! ## Options that were read in between -/

/-- The mapping has a value under every name of another one. -/
def HasNamesOf (fields base : Fields Value) : Prop :=
  ∀ name, base.has name = true → fields.has name = true

section reread

variable {α : Type} {held given : Fields Value} {name : String}

/-- A merged mapping has all names of the one it was merged into. -/
theorem hasNamesOf_mergeFields (hGiven : (Fields.names given).Nodup) (base : Fields Value) :
    HasNamesOf (mergeFields base given) base := by
  intro name hHas
  obtain ⟨old, hOld⟩ := Option.isSome_iff_exists.1 hHas
  exact has_mergeFields hGiven hOld

/-- Options are converted back from the values they are written as, and none from a mapping. -/
structure Rereads (coerce : Value → Except OptionFault α) (toValue : α → Value) : Prop where
  written : ∀ a, coerce (toValue a) = .ok a
  mapping : ∀ own a, coerce (.mapping own) ≠ .ok a

/-- Texts are converted back from the values they are written as. -/
theorem rereads_text : Rereads coerceText .text where
  written := coerceText_text
  mapping := nofun

/-- Truth values are converted back from the values they are written as. -/
theorem rereads_bool : Rereads coerceBool .bool where
  written := coerceBool_bool
  mapping := nofun

/-- Kinds of stores are converted back from the names they are written as. -/
theorem rereads_kind : Rereads coerceKind fun kind => .text kind.name where
  written := coerceKind_name
  mapping := nofun

/-- Texts that may be left out are converted back from the values they are written as. -/
theorem rereads_textOrNull : Rereads (coerceOptional coerceText) Value.ofText? where
  written := coerceOptional_ofText?
  mapping := nofun

/-- Integers that may be left out are converted back from the values they are written as. -/
theorem rereads_intOrNull : Rereads (coerceOptional coerceInt) Value.ofInt? where
  written := coerceOptional_ofInt?
  mapping := nofun

/-- A field that was read and written is as good as what it was read from, whatever is laid over it. -/
theorem checkField_reread (back : Fields Value) {coerce : Value → Except OptionFault α}
    {toValue : α → Value} {found : Option α} (hRereads : Rereads coerce toValue)
    (hHas : held.has name = true) (h : checkField held name coerce = .ok found)
    (hBack : ∀ a, found = some a → back.get? name = some (toValue a))
    (hNames : (Fields.names given).Nodup) :
    checkField (mergeFields held given) name coerce =
      checkField (mergeFields back given) name coerce := by
  obtain ⟨value, hValue⟩ := Option.isSome_iff_exists.1 hHas
  obtain ⟨a, hRead, hFound⟩ := checkField_eq_ok h hValue
  have hPlain : ∀ own, value ≠ .mapping own := by
    rintro own rfl
    exact hRereads.mapping own a hRead
  have hPlainBack : ∀ own, toValue a ≠ .mapping own := by
    intro own hOwn
    exact hRereads.mapping own a (hOwn ▸ hRereads.written a)
  rw [checkField, checkField, get?_mergeFields_of_not_mapping hNames hValue hPlain,
    get?_mergeFields_of_not_mapping hNames (hBack a hFound) hPlainBack]
  cases supplied? given name with
  | some other => rfl
  | none => simp only [Option.getD_none, hRead, hRereads.written]

/-- A part that was read and written is as good as the mapping it was read from, if that is so of all
that is laid over the part itself. -/
theorem checkPart_reread (convert : Value → Checked α) {back own other : Fields Value}
    (hHeld : held.get? name = some (.mapping own)) (hBack : back.get? name = some (.mapping other))
    (hConvert : ∀ inner : Fields Value, (Fields.names inner).Nodup →
      convert (.mapping (mergeFields own inner)) = convert (.mapping (mergeFields other inner)))
    (hNames : HaveDistinctNames given) :
    checkPart (mergeFields held given) name convert =
      checkPart (mergeFields back given) name convert := by
  rw [checkPart, checkPart, get?_mergeFields_eq_mergeHeld hNames.names,
    get?_mergeFields_eq_mergeHeld hNames.names, hHeld, hBack]
  rcases given_cases (given.get? name) with hNothing | ⟨inner, hInner⟩ | ⟨value, hValue, hSingle⟩
  · have hSame := hConvert [] List.nodup_nil
    rw [mergeFields, mergeFields] at hSame
    rw [mergeHeld_of_nothing hNothing, mergeHeld_of_nothing hNothing]
    simp only [hSame]
  · rw [hInner, mergeHeld_mapping, mergeHeld_mapping]
    simp only [hConvert inner (hNames.parts name inner hInner)]
  · rw [hValue, mergeHeld_single hSingle, mergeHeld_single hSingle]

/-- Storage options read in between do not change what a mapping merged in is read as. -/
theorem StoragePatch.ofFields_reread {base : StorageOptions} {patch : StoragePatch}
    (hHeld : HasNamesOf held base.toFields) (h : StoragePatch.ofFields held = .ok patch)
    (hNames : (Fields.names given).Nodup) :
    StoragePatch.ofFields (mergeFields held given) =
      StoragePatch.ofFields (mergeFields patch.fill.toFields given) := by
  simp only [StoragePatch.ofFields, map_eq_ok, Prod.exists, Checked.both_eq_ok] at h
  obtain ⟨kind, keyPrefix, redisUrl, redisPassword, redisDb, databaseUrl, databaseEcho,
    ⟨hKind, hPrefix, hUrl, hPassword, hDb, hDatabase, hEcho⟩, rfl⟩ := h
  generalize hBack : (StoragePatch.mk kind keyPrefix redisUrl redisPassword redisDb databaseUrl
    databaseEcho).fill.toFields = back
  rw [ofFields, ofFields,
    checkField_reread back rereads_kind (hHeld _ rfl) hKind
      (by rintro a rfl; subst hBack; rfl) hNames,
    checkField_reread back rereads_text (hHeld _ rfl) hPrefix
      (by rintro a rfl; subst hBack; rfl) hNames,
    checkField_reread back rereads_text (hHeld _ rfl) hUrl
      (by rintro a rfl; subst hBack; rfl) hNames,
    checkField_reread back rereads_textOrNull (hHeld _ rfl) hPassword
      (by rintro a rfl; subst hBack; rfl) hNames,
    checkField_reread back rereads_intOrNull (hHeld _ rfl) hDb
      (by rintro a rfl; subst hBack; rfl) hNames,
    checkField_reread back rereads_text (hHeld _ rfl) hDatabase
      (by rintro a rfl; subst hBack; rfl) hNames,
    checkField_reread back rereads_bool (hHeld _ rfl) hEcho
      (by rintro a rfl; subst hBack; rfl) hNames]

/-- The flag for validation is read under its short name, before and after. -/
theorem TimezonePatch.ofFields_reread {base : TimezoneOptions} {patch : TimezonePatch}
    (hHeld : HasNamesOf held base.toFields) (h : TimezonePatch.ofFields held = .ok patch)
    (hNames : (Fields.names given).Nodup) :
    TimezonePatch.ofFields (mergeFields held given) =
      TimezonePatch.ofFields (mergeFields patch.fill.toFields given) := by
  simp only [TimezonePatch.ofFields, map_eq_ok, Prod.exists, Checked.both_eq_ok] at h
  obtain ⟨zone, validate, strict, ⟨⟨hZone, hValidate⟩, hStrict⟩, rfl⟩ := h
  have hShort : held.has "validate" = true := hHeld _ rfl
  rw [checkValidate, if_pos hShort] at hValidate
  generalize hBack : (TimezonePatch.mk zone validate strict).fill.toFields = back
  have hShortBack : back.has "validate" = true := by
    subst hBack
    rfl
  rw [ofFields, ofFields, checkValidate, if_pos (hasNamesOf_mergeFields hNames _ _ hShort),
    checkValidate, if_pos (hasNamesOf_mergeFields hNames _ _ hShortBack),
    checkField_reread back rereads_text (hHeld _ rfl) hZone
      (by rintro a rfl; subst hBack; rfl) hNames,
    checkField_reread back rereads_bool hShort hValidate
      (by rintro a rfl; subst hBack; rfl) hNames,
    checkField_reread back rereads_bool (hHeld _ rfl) hStrict
      (by rintro a rfl; subst hBack; rfl) hNames]

/-- The mapping has all that options have, and mappings in the places of their parts. -/
structure IsComplete (held : Fields Value) (base : ModuleOptions) : Prop where
  names : HasNamesOf held base.toFields
  storage : ∃ own, held.get? "storage" = some (.mapping own) ∧ HasNamesOf own base.storage.toFields
  timezone : ∃ own, held.get? "timezone" = some (.mapping own) ∧
    HasNamesOf own base.timezone.toFields

/-- What is left of a mapping when a given one that spares it is laid over it. -/
theorem exists_part_mergeFields {base own : Fields Value} (hGiven : HaveDistinctNames given)
    (hSpares : SparesMappings given base) (hBase : base.get? name = some (.mapping own)) :
    ∃ part, Fields.get? (mergeFields base given) name = some (.mapping part) ∧
      HasNamesOf part own := by
  rw [get?_mergeFields_eq_mergeHeld hGiven.names, hBase]
  rcases given_cases (given.get? name) with hNothing | ⟨inner, hInner⟩ | ⟨value, hValue, hSingle⟩
  · rw [mergeHeld_of_nothing hNothing]
    exact ⟨own, rfl, fun _ hHas => hHas⟩
  · rw [hInner, mergeHeld_mapping]
    exact ⟨_, rfl, hasNamesOf_mergeFields (hGiven.parts name inner hInner) own⟩
  · exact absurd hBase (hSpares.not_mapping hValue hSingle own)

/-- Options stay complete under a mapping that puts no single value in the place of a part. -/
theorem isComplete_mergeFields {base : ModuleOptions} (hGiven : HaveDistinctNames given)
    (hSpares : SparesMappings given base.toFields) :
    IsComplete (mergeFields base.toFields given) base where
  names := hasNamesOf_mergeFields hGiven.names _
  storage := exists_part_mergeFields hGiven hSpares rfl
  timezone := exists_part_mergeFields hGiven hSpares rfl

/-- **Options that were read in between.** Whatever is laid over them, options that were read from a
mapping are as good as the mapping. -/
theorem ModulePatch.ofFields_reread {base : ModuleOptions} {patch : ModulePatch}
    (hHeld : IsComplete held base) (h : ModulePatch.ofFields held = .ok patch)
    (hNames : HaveDistinctNames given) :
    ModulePatch.ofFields (mergeFields held given) =
      ModulePatch.ofFields (mergeFields patch.fill.toFields given) := by
  obtain ⟨storageFields, hStorageHeld, hStorageNames⟩ := hHeld.storage
  obtain ⟨timezoneFields, hTimezoneHeld, hTimezoneNames⟩ := hHeld.timezone
  obtain ⟨storagePart, hStorageRead, hStorageFill⟩ := ModulePatch.storage_of_ofFields h hStorageHeld
  obtain ⟨timezonePart, hTimezoneRead, hTimezoneFill⟩ :=
    ModulePatch.timezone_of_ofFields h hTimezoneHeld
  have hStorageBack : patch.fill.toFields.get? "storage" =
      some (.mapping storagePart.fill.toFields) := by
    rw [← hStorageFill]
    rfl
  have hTimezoneBack : patch.fill.toFields.get? "timezone" =
      some (.mapping timezonePart.fill.toFields) := by
    rw [← hTimezoneFill]
    rfl
  have hStorage := checkPart_reread StoragePatch.ofValue hStorageHeld hStorageBack
    (fun inner hInner => StoragePatch.ofFields_reread hStorageNames hStorageRead hInner) hNames
  have hTimezone := checkPart_reread TimezonePatch.ofValue hTimezoneHeld hTimezoneBack
    (fun inner hInner => TimezonePatch.ofFields_reread hTimezoneNames hTimezoneRead hInner) hNames
  simp only [ModulePatch.ofFields, map_eq_ok, Prod.exists, Checked.both_eq_ok] at h
  obtain ⟨serverTasks, tasksDir, storage, timezone, ⟨hTasks, hDir, -, -⟩, rfl⟩ := h
  generalize hBack : (ModulePatch.mk serverTasks tasksDir storage timezone).fill.toFields = back
    at hStorage hTimezone ⊢
  rw [ofFields, ofFields, hStorage, hTimezone,
    checkField_reread back rereads_bool (hHeld.names _ rfl) hTasks
      (by rintro a rfl; subst hBack; rfl) hNames.names,
    checkField_reread back rereads_textOrNull (hHeld.names _ rfl) hDir
      (by rintro a rfl; subst hBack; rfl) hNames.names]

end reread

/-! ## Successive updates -/

/-- A proper mapping has distinct names, and so have the mappings in it. -/
theorem Value.IsProper.haveDistinctNames {fields : Fields Value} (h : (Value.mapping fields).IsProper) :
    HaveDistinctNames fields where
  names := h.1
  parts := fun _ _ hPart => (h.2.get? hPart).1

/-- No path leads from a value that is no mapping to one. -/
theorem Value.at?_ne_mapping_of_not_mapping {value : Value} (h : ∀ own, value ≠ .mapping own)
    (path : List String) (own : Fields Value) : value.at? path ≠ some (.mapping own) := by
  intro hOwn
  match path with
  | [] => exact h own (Option.some.inj (by rwa [Value.at?] at hOwn))
  | name :: path =>
    cases value with
    | mapping inner => exact h inner rfl
    | _ => cases hOwn

/-- Where no field holds a mapping, no path leads to one but the empty one. -/
theorem Value.eq_nil_of_at?_mapping {fields own : Fields Value} {path : List String}
    (h : ∀ field ∈ fields, ∀ inner, field.2 ≠ .mapping inner)
    (hOwn : (Value.mapping fields).at? path = some (.mapping own)) : path = [] := by
  match path with
  | [] => rfl
  | name :: path =>
    rw [Value.at?_cons, Option.bind_eq_some_iff] at hOwn
    obtain ⟨value, hValue, hOwn⟩ := hOwn
    exact absurd hOwn (at?_ne_mapping_of_not_mapping (h _ (Fields.mem_of_get? hValue)) path own)

/-- No storage option is written as a mapping. -/
theorem StorageOptions.toFields_ne_mapping (options : StorageOptions) :
    ∀ field ∈ options.toFields, ∀ own, field.2 ≠ .mapping own := by
  simp [toFields, attributes, ofText?_ne_mapping, ofInt?_ne_mapping]

/-- No time zone option is written as a mapping. -/
theorem TimezoneOptions.toFields_ne_mapping (options : TimezoneOptions) :
    ∀ field ∈ options.toFields, ∀ own, field.2 ≠ .mapping own := by
  simp [toFields]

/-- The only paths that lead to mappings in options are those to the two parts. -/
theorem ModuleOptions.path_of_at?_mapping (options : ModuleOptions) {path : List String}
    {own : Fields Value} (h : (Value.mapping options.toFields).at? path = some (.mapping own)) :
    path = [] ∨ path = ["storage"] ∨ path = ["timezone"] := by
  match path with
  | [] => exact .inl rfl
  | name :: rest =>
    rw [Value.at?_cons, Option.bind_eq_some_iff] at h
    obtain ⟨part, hPart, hOwn⟩ := h
    have hMem := Fields.mem_of_get? hPart
    simp only [toFields, List.mem_cons, List.not_mem_nil, or_false, Prod.mk.injEq] at hMem
    rcases hMem with ⟨-, rfl⟩ | ⟨-, rfl⟩ | ⟨rfl, rfl⟩ | ⟨rfl, rfl⟩
    · exact absurd hOwn (Value.at?_ne_mapping_of_not_mapping (by rintro inner ⟨⟩) rest own)
    · exact absurd hOwn (Value.at?_ne_mapping_of_not_mapping (ofText?_ne_mapping _) rest own)
    · obtain rfl := Value.eq_nil_of_at?_mapping options.storage.toFields_ne_mapping hOwn
      exact .inr (.inl rfl)
    · obtain rfl := Value.eq_nil_of_at?_mapping options.timezone.toFields_ne_mapping hOwn
      exact .inr (.inr rfl)

/-- A mapping spares the mappings of the options as long as it gives their two parts as mappings, as
`null`, or not at all. -/
theorem sparesMappings_options {given : Fields Value} (base : ModuleOptions) :
    SparesMappings given base.toFields ↔
      (∀ value, given.get? "storage" = some value → ¬ value.IsSingle) ∧
        ∀ value, given.get? "timezone" = some value → ¬ value.IsSingle := by
  constructor
  · intro h
    exact ⟨fun value hValue hSingle => h.not_mapping hValue hSingle _ rfl,
      fun value hValue hSingle => h.not_mapping hValue hSingle _ rfl⟩
  · rintro ⟨hStorage, hTimezone⟩ path own value hOwn hValue
    rcases base.path_of_at?_mapping hOwn with rfl | rfl | rfl
    · rw [Value.at?] at hValue
      obtain rfl := Option.some.inj hValue
      exact fun hSingle => hSingle.2 given rfl
    · exact hStorage value (Value.at?_single.symm.trans hValue)
    · exact hTimezone value (Value.at?_single.symm.trans hValue)

namespace Configuration

variable {first second : Fields Value}

/-- Overlays have one result if their merged mappings are read alike. -/
theorem overlay_congr {base other : ModuleOptions} {fields others : Fields Value}
    (h : ModulePatch.ofFields (mergeFields base.toFields fields) =
      ModulePatch.ofFields (mergeFields other.toFields others)) :
    overlay base (.mapping fields) = overlay other (.mapping others) := by
  simp only [overlay, partialFields, ok_bind, completeOptions, h]

/-- **One update for two.** Where an update with a mapping that spares the parts of the options is
followed by a second one, a single update with the second mapping laid over the first has the same
outcome. -/
theorem updateOptions_merged {config next : Configuration} (hFirst : (Value.mapping first).IsProper)
    (hSecond : (Value.mapping second).IsProper)
    (hSpares : SparesMappings first config.options.toFields)
    (h : config.updateOptions (.mapping first) = .ok next) :
    next.updateOptions (.mapping second) =
      config.updateOptions (.mapping (mergeFields first second)) := by
  simp only [updateOptions, overlay, partialFields, ok_bind, bind_eq_ok] at h
  obtain ⟨options, hOptions, hNext⟩ := h
  obtain rfl := Except.ok.inj hNext
  obtain ⟨patch, hPatch, rfl⟩ := completeOptions_eq_ok hOptions
  have hComplete := isComplete_mergeFields hFirst.haveDistinctNames hSpares
  refine overlay_congr ?_
  calc ModulePatch.ofFields (mergeFields patch.fill.toFields second)
      = ModulePatch.ofFields (mergeFields (mergeFields config.options.toFields first) second) :=
        (ModulePatch.ofFields_reread hComplete hPatch hSecond.haveDistinctNames).symm
    _ = ModulePatch.ofFields (mergeFields config.options.toFields (mergeFields first second)) :=
        ModulePatch.ofFields_congr (mergeFields_assoc hFirst hSecond hSpares)

/-- **Twice the same update.** An update that is made once more changes nothing. -/
theorem updateOptions_again {config next : Configuration} (hSecond : (Value.mapping second).IsProper)
    (hSpares : SparesMappings second config.options.toFields)
    (h : config.updateOptions (.mapping second) = .ok next) :
    next.updateOptions (.mapping second) = .ok next := by
  rw [updateOptions_merged hSecond hSecond hSpares h, ← h]
  refine overlay_congr (ModulePatch.ofFields_congr fun path => ?_)
  exact (mergeFields_assoc hSecond hSecond hSpares path).symm.trans (mergeFields_absorb hSecond path)

/-- **Successive mergers.** Where no single value takes the place of a mapping, it makes no difference
whether two mappings are laid over a base one after the other or merged before, and none whether the
second is laid over the base once or twice.  If the base are the options in force, two updates have the
outcome of one with both. -/
theorem successive_eq_merged {base : Fields Value} (hFirst : (Value.mapping first).IsProper)
    (hSecond : (Value.mapping second).IsProper) (hSpares : SparesMappings first base) :
    EqualMappings (mergeFields (mergeFields base first) second)
        (mergeFields base (mergeFields first second)) ∧
      EqualMappings (mergeFields (mergeFields base second) second) (mergeFields base second) ∧
      ∀ config next : Configuration, config.options.toFields = base →
        config.updateOptions (.mapping first) = .ok next →
        next.updateOptions (.mapping second) =
          config.updateOptions (.mapping (mergeFields first second)) := by
  refine ⟨mergeFields_assoc hFirst hSecond hSpares, mergeFields_absorb hSecond, ?_⟩
  rintro config next rfl hUpdate
  exact updateOptions_merged hFirst hSecond hSpares hUpdate

/-- Tokyo for the zone, and a mapping beside it that the options know nothing of. -/
def tokyoOwned : Fields Value :=
  [("timezone", .mapping [("type", .text "Asia/Tokyo"), ("strict", .null)]),
   ("labels", .mapping [("owner", .null)])]

/-- The zone imposed, with a `null` for the zone itself. -/
def imposedOwned : Fields Value :=
  [("timezone", .mapping [("strict", .bool true), ("type", .null)]),
   ("labels", .mapping [("owner", .text "ops")])]

/-- Tokyo is imposed, be it in two steps or in one. -/
theorem successive_eq_merged_tokyo :
    ∃ next, initial.updateOptions (.mapping tokyoOwned) = .ok next ∧
      next.updateOptions (.mapping imposedOwned) =
        initial.updateOptions (.mapping (mergeFields tokyoOwned imposedOwned)) ∧
      initial.updateOptions (.mapping (mergeFields tokyoOwned imposedOwned)) =
        .ok ⟨{ ModuleOptions.default with timezone := ⟨"Asia/Tokyo", true, true⟩ }⟩ := by
  have hFirst : (Value.mapping tokyoOwned).IsProper := by
    simp [tokyoOwned, Value.IsProper, Value.HaveProperValues, Fields.names]
  have hSecond : (Value.mapping imposedOwned).IsProper := by
    simp [imposedOwned, Value.IsProper, Value.HaveProperValues, Fields.names]
  have hSpares : SparesMappings tokyoOwned initial.options.toFields := by
    refine (sparesMappings_options initial.options).2 ⟨?_, ?_⟩
    · rintro value ⟨⟩
    · rintro value ⟨⟩ hSingle
      exact hSingle.2 _ rfl
  obtain ⟨-, -, hUpdates⟩ := successive_eq_merged hFirst hSecond hSpares
  exact ⟨_, rfl, hUpdates initial _ rfl rfl, rfl⟩

end Configuration

end Crontab
