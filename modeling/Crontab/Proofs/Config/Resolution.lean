import Crontab.Config.Resolution
import Crontab.Proofs.Config.Overrides
import Crontab.Proofs.Task.RoundTrip
import Crontab.Proofs.Task.Verdict

/-!
# Zones by the form of the options

The options of the module are consulted in two forms, as the mapping they were given as and as the
options read from it.  A mapping is consulted as it is: nothing in it is converted, and no default
stands in for what it leaves out.  The zone in force for a task is the same in both forms unless that
makes a difference.

* `zoneInForce` — the zone in force by the zone of the module and whether it is imposed;
* `Value.SameText` — values that are equal, a status being the text of its name;
* `zoneInForce_sameText_iff` — when a zone and its text are in force for the same tasks;
* `isStrict_mapping_iff` — what a mapping imposes as it is;
* `IsTakenAsRead` — time zone options that say the same as they are and read;
* `resolution_by_form` — where the two forms agree.
-/

namespace Crontab

/-! ## The zone in force -/

/-- The zone in force for a task by the zone of the module and whether it is imposed. -/
def zoneInForce (zone : Value) (imposed : Bool) (taskZone : Value) : Value :=
  if zone.isTruthy && imposed then zone else taskZone.orElse (zone.orElse (.text "UTC"))

/-- The values are equal, or both the same text: a status is the text of its name. -/
def Value.SameText (value other : Value) : Prop :=
  value = other ∨ ∃ s, value.text? = some s ∧ other.text? = some s

section zones

variable {zone : Value} {s : String} {imposed read : Bool}

/-- A zone is resolved by the zone of the module and by whether it is imposed. -/
theorem resolveTimezone_eq_zoneInForce (taskZone options : Value) :
    resolveTimezone taskZone options =
      zoneInForce (moduleZone options) (isStrict options) taskZone :=
  rfl

/-- Without a zone of the module, that of the task is in force, or universal time. -/
theorem zoneInForce_of_missing (h : zone.isTruthy = false) (imposed : Bool) (taskZone : Value) :
    zoneInForce zone imposed taskZone = taskZone.orElse (.text "UTC") := by
  rw [zoneInForce, h, Value.orElse, Value.orElse, h]
  rfl

/-- A zone that is imposed is in force for every task. -/
theorem zoneInForce_imposed (h : zone.isTruthy = true) (taskZone : Value) :
    zoneInForce zone true taskZone = zone := by
  rw [zoneInForce, h]
  rfl

/-- A zone that is not imposed is in force for tasks without one of their own. -/
theorem zoneInForce_free (h : zone.isTruthy = true) (taskZone : Value) :
    zoneInForce zone false taskZone = taskZone.orElse zone := by
  rw [zoneInForce, Bool.and_false, orElse_of_isTruthy h]
  rfl

/-- A task without a zone has that of the module, imposed or not. -/
theorem zoneInForce_of_not_given {taskZone : Value} (h : taskZone.isTruthy = false) (zone : Value)
    (imposed : Bool) : zoneInForce zone imposed taskZone = zone.orElse (.text "UTC") := by
  have hTask : taskZone.orElse (zone.orElse (.text "UTC")) = zone.orElse (.text "UTC") := by
    rw [Value.orElse, h]
    rfl
  unfold zoneInForce
  split
  · next hGiven => exact (orElse_of_isTruthy (Bool.and_eq_true_iff.1 hGiven).1 _).symm
  · exact hTask

/-- Some task is in another zone than that of the module unless the latter is imposed. -/
theorem exists_zoneInForce_ne (h : (Value.text s).isTruthy = true) {other : Value}
    (hOther : other.isTruthy = true) : ∃ taskZone,
      ¬ (zoneInForce other false taskZone).SameText (zoneInForce (.text s) true taskZone) := by
  have hLonger : s ++ "!" ≠ s := by
    intro hEq
    have hLength := congrArg String.length hEq
    simp at hLength
  refine ⟨.text (s ++ "!"), ?_⟩
  have hGiven : (Value.text (s ++ "!")).isTruthy = true :=
    (isTruthy_iff_of_text? rfl).2 (by simp)
  rw [zoneInForce_imposed h, zoneInForce_free hOther, orElse_of_isTruthy hGiven]
  rintro (hEq | ⟨t, hText, hOwn⟩)
  · exact hLonger (Value.text.inj hEq)
  · exact hLonger (Option.some.inj (hText.trans hOwn.symm))

/-- A value counts as given exactly when its characters do. -/
theorem isTruthy_of_characters? (h : characters? zone = some s) :
    zone.isTruthy = (Value.text s).isTruthy := by
  cases zone with
  | text own => obtain rfl := Option.some.inj h; rfl
  | bytes own => obtain rfl := Option.some.inj h; rfl
  | status own => obtain rfl := Option.some.inj h; cases own <;> rfl
  | _ => cases h

/-- The text of a value, if it has one, is that of its characters. -/
theorem text?_of_characters? (h : characters? zone = some s) (hText : zone.text?.isSome = true) :
    zone.text? = some s := by
  cases zone with
  | bytes own => cases hText
  | _ => exact h

/-- A value with the text of a text has a text. -/
theorem Value.SameText.isSome_text? (h : zone.SameText (.text s)) : zone.text?.isSome = true := by
  rcases h with rfl | ⟨t, hText, -⟩
  · rfl
  · rw [hText]
    rfl

/-- Zones that are the same text are in force for the same tasks, if both are imposed or none is. -/
theorem Value.SameText.zoneInForce {other : Value} (h : zone.SameText other)
    (hGiven : zone.isTruthy = true) (hOther : other.isTruthy = true) (imposed : Bool)
    (taskZone : Value) :
    (zoneInForce zone imposed taskZone).SameText (zoneInForce other imposed taskZone) := by
  cases imposed with
  | true => rwa [zoneInForce_imposed hGiven, zoneInForce_imposed hOther]
  | false =>
    rw [zoneInForce_free hGiven, zoneInForce_free hOther, Value.orElse, Value.orElse]
    split
    · exact .inl rfl
    · exact h

/-- **A zone and its text.** A zone is in force for the same tasks as the text read from it if both
count as missing, or if it is a text itself and imposed where the other is. -/
theorem zoneInForce_sameText_iff (hZone : characters? zone = some s)
    (hImposed : imposed = true → read = true) :
    (∀ taskZone, (zoneInForce zone imposed taskZone).SameText (zoneInForce (.text s) read taskZone)) ↔
      zone.isTruthy = false ∨ (zone.text?.isSome = true ∧ (read = true → imposed = true)) := by
  have hSame := isTruthy_of_characters? hZone
  cases hGiven : zone.isTruthy with
  | false =>
    simp only [true_or, iff_true]
    intro taskZone
    rw [zoneInForce_of_missing hGiven, zoneInForce_of_missing (hSame ▸ hGiven)]
    exact .inl rfl
  | true =>
    rw [hGiven] at hSame
    constructor
    · intro hAll
      -- a task without a zone tells whether the zone is a text, one with another zone whether it is
      -- imposed
      have hNull := hAll .null
      rw [zoneInForce_of_not_given rfl, zoneInForce_of_not_given rfl, orElse_of_isTruthy hGiven,
        orElse_of_isTruthy hSame.symm] at hNull
      refine .inr ⟨hNull.isSome_text?, ?_⟩
      rintro rfl
      by_contra hFree
      rw [Bool.not_eq_true] at hFree
      subst hFree
      obtain ⟨taskZone, hNot⟩ := exists_zoneInForce_ne hSame.symm hGiven
      exact hNot (hAll taskZone)
    · rintro (⟨⟨⟩⟩ | ⟨hText, hRead⟩) taskZone
      obtain rfl : imposed = read := Bool.eq_iff_iff.2 ⟨hImposed, hRead⟩
      have hTexts : zone.SameText (.text s) := .inr ⟨s, text?_of_characters? hZone hText, rfl⟩
      exact hTexts.zoneInForce hGiven hSame.symm imposed taskZone

/-- **A zone that is left out.** Where none is given universal time stands in, unless it is imposed. -/
theorem zoneInForce_default_iff :
    (∀ taskZone, (zoneInForce .null imposed taskZone).SameText
      (zoneInForce (.text "UTC") read taskZone)) ↔ read = false := by
  have hDefault : (Value.text "UTC").isTruthy = true := by decide
  have hMissing : ∀ taskZone, zoneInForce .null imposed taskZone = taskZone.orElse (.text "UTC") :=
    zoneInForce_of_missing rfl imposed
  cases read with
  | false =>
    simp only [iff_true]
    intro taskZone
    rw [hMissing, zoneInForce_free hDefault]
    exact .inl rfl
  | true =>
    obtain ⟨taskZone, hNot⟩ := exists_zoneInForce_ne hDefault hDefault
    rw [zoneInForce_free hDefault, ← hMissing] at hNot
    simp only [Bool.true_eq_false, iff_false]
    exact fun hAll => hNot (hAll taskZone)

end zones

/-! ## Mappings and what is read from them -/

section forms

variable {fields own : Fields Value} {patch : ModulePatch} {part : TimezonePatch}

/-- Options that were read impose their zone if their flag says so. -/
theorem isStrict_moduleOptions (patch : ModulePatch) :
    isStrict (.moduleOptions patch) = patch.fill.timezone.strict :=
  rfl

/-- The zone of options that were read is always a text. -/
theorem moduleZone_moduleOptions (patch : ModulePatch) :
    moduleZone (.moduleOptions patch) = .text patch.fill.timezone.zone :=
  rfl

/-- The part for time zones of a mapping is the mapping under that name. -/
theorem part_timezone_mapping (h : fields.get? "timezone" = some (.mapping own)) :
    (Value.mapping fields).part "timezone" = .mapping own := by
  rw [Value.part, h, Option.getD_some]

/-- The zone of a mapping stands under the `type` of its part for time zones. -/
theorem moduleZone_mapping (h : fields.get? "timezone" = some (.mapping own)) :
    moduleZone (.mapping fields) = (own.get? "type").getD .null := by
  rw [moduleZone, part_timezone_mapping h, Value.part]

/-- As it is, a mapping imposes its zone by nothing but a truth value. -/
theorem isStrict_mapping_iff (h : fields.get? "timezone" = some (.mapping own)) :
    isStrict (.mapping fields) = true ↔ own.get? "strict" = some (.bool true) := by
  have hFlag : strictFlag (.mapping fields) = (own.get? "strict").getD .null := by
    rw [strictFlag, part_timezone_mapping h]
    cases own with
    | nil => rfl
    | cons field rest => rfl
  rw [isStrict, hFlag]
  cases hStrict : own.get? "strict" with
  | none => simp
  | some value =>
    rw [Option.getD_some, Option.some.injEq]
    cases value <;> simp

/-- The zone that is read from a mapping: the characters of the one it gives, or the default. -/
theorem TimezonePatch.zone_of_ofFields (h : TimezonePatch.ofFields own = .ok part) :
    (own.get? "type" = none ∧ part.fill.zone = "UTC") ∨
      ∃ zone, own.get? "type" = some zone ∧ characters? zone = some part.fill.zone := by
  simp only [TimezonePatch.ofFields, map_eq_ok, Prod.exists, Checked.both_eq_ok] at h
  obtain ⟨zone, validate, strict, ⟨⟨hZone, -⟩, -⟩, rfl⟩ := h
  cases hValue : own.get? "type" with
  | none =>
    rw [checkField, hValue] at hZone
    obtain rfl := Except.ok.inj hZone
    exact .inl ⟨rfl, rfl⟩
  | some value =>
    obtain ⟨s, hRead, rfl⟩ := checkField_eq_ok hZone hValue
    rw [coerceText] at hRead
    cases hChars : characters? value with
    | none =>
      rw [hChars] at hRead
      cases hRead
    | some t =>
      rw [hChars] at hRead
      obtain rfl := Except.ok.inj hRead
      exact .inr ⟨value, rfl, hChars⟩

/-- What a mapping imposes as it is, it imposes when it is read. -/
theorem TimezonePatch.strict_of_ofFields (h : TimezonePatch.ofFields own = .ok part)
    (hStrict : own.get? "strict" = some (.bool true)) : part.fill.strict = true := by
  simp only [TimezonePatch.ofFields, map_eq_ok, Prod.exists, Checked.both_eq_ok] at h
  obtain ⟨zone, validate, strict, ⟨-, hFlag⟩, rfl⟩ := h
  obtain ⟨flag, hRead, rfl⟩ := checkField_eq_ok hFlag hStrict
  exact (Except.ok.inj hRead).symm

/-- Nothing but the part about time zones is consulted. -/
theorem consulted_congr {options others : Value}
    (h : options.part "timezone" = others.part "timezone") (taskZone : Value) :
    isStrict options = isStrict others ∧
      resolveTimezone taskZone options = resolveTimezone taskZone others := by
  have hStrict : isStrict options = isStrict others := by
    rw [isStrict, isStrict, strictFlag, strictFlag, h]
  refine ⟨hStrict, ?_⟩
  rw [resolveTimezone_eq_zoneInForce, resolveTimezone_eq_zoneInForce, hStrict, moduleZone, moduleZone,
    h]

/-- Options that give no mapping for their time zones are the same in both forms. -/
theorem consulted_eq_of_not_mapping (h : ModulePatch.ofFields fields = .ok patch)
    (hNot : ∀ own, fields.get? "timezone" ≠ some (.mapping own)) (taskZone : Value) :
    isStrict (.mapping fields) = isStrict (.moduleOptions patch) ∧
      resolveTimezone taskZone (.mapping fields) =
        resolveTimezone taskZone (.moduleOptions patch) := by
  have hTimezone := (ModulePatch.parts_of_ofFields h).2
  rcases checkPart_cases hTimezone with ⟨hMissing, hPart⟩ | ⟨value, part, hValue, hRead, hPart⟩
  · have hOwn : (Value.mapping fields).part "timezone" = .null := by
      rw [Value.part, hMissing, Option.getD_none]
    have hStrict : isStrict (.mapping fields) = false := by
      rw [isStrict, strictFlag, hOwn]
      rfl
    have hZone : moduleZone (.mapping fields) = .null := by
      rw [moduleZone, hOwn]
      rfl
    have hFill : patch.fill.timezone = ⟨"UTC", true, false⟩ := by
      rw [ModulePatch.fill, hPart]
      rfl
    rw [resolveTimezone_eq_zoneInForce, resolveTimezone_eq_zoneInForce, hStrict, hZone,
      isStrict_moduleOptions, moduleZone_moduleOptions, hFill]
    exact ⟨rfl, rfl⟩
  · obtain rfl : value = .timezoneOptions part := by
      cases value with
      | mapping own => exact absurd hValue (hNot own)
      | timezoneOptions given => rw [Except.ok.inj hRead]
      | _ => cases hRead
    refine consulted_congr ?_ taskZone
    rw [Value.part, hValue, Option.getD_some, Value.part, Value.attribute?, Value.attributes,
      ModulePatch.attributes, hPart]
    · rfl
    · rintro _ ⟨⟩

/-- The options about time zones say the same as they are and read, where they are imposed or not once
they are read: without a zone they must not be imposed, and with one it has to be a text that is
imposed by a truth value or not at all. -/
def IsTakenAsRead (own : Fields Value) (imposed : Bool) : Prop :=
  match own.get? "type" with
  | none => imposed = false
  | some zone =>
    zone.isTruthy = false ∨
      (zone.text?.isSome = true ∧ (imposed = true → own.get? "strict" = some (.bool true)))

/-- **Zones by the form of the options.** Options as they were given and as they are read impose the
same and have the same zone in force for every task if they give no mapping for their time zones.  If
they give one, they impose the same iff it imposes its zone by a truth value or, once it is read, not
at all; and they have the same zones in force iff that holds of a zone that is a text, or no zone is
given and none imposed, or the zone is empty. -/
theorem resolution_by_form (h : ModulePatch.ofFields fields = .ok patch) :
    ((∀ own : Fields Value, fields.get? "timezone" ≠ some (.mapping own)) →
      isStrict (.mapping fields) = isStrict (.moduleOptions patch) ∧
        ∀ taskZone, resolveTimezone taskZone (.mapping fields) =
          resolveTimezone taskZone (.moduleOptions patch)) ∧
      ∀ own : Fields Value, fields.get? "timezone" = some (.mapping own) →
        (isStrict (.mapping fields) = isStrict (.moduleOptions patch) ↔
          (patch.fill.timezone.strict = true → own.get? "strict" = some (.bool true))) ∧
        ((∀ taskZone, (resolveTimezone taskZone (.mapping fields)).SameText
            (resolveTimezone taskZone (.moduleOptions patch))) ↔
          IsTakenAsRead own patch.fill.timezone.strict) := by
  constructor
  · intro hNot
    exact ⟨(consulted_eq_of_not_mapping h hNot .null).1, fun taskZone =>
      (consulted_eq_of_not_mapping h hNot taskZone).2⟩
  · intro own hOwn
    obtain ⟨part, hPart, hFill⟩ := ModulePatch.timezone_of_ofFields h hOwn
    have hImposed := isStrict_mapping_iff hOwn
    have hKept : isStrict (.mapping fields) = true → patch.fill.timezone.strict = true := by
      rw [hImposed, hFill]
      exact TimezonePatch.strict_of_ofFields hPart
    constructor
    · rw [isStrict_moduleOptions, ← hImposed, Bool.eq_iff_iff]
      exact ⟨fun hSame => hSame.2, fun hRead => ⟨hKept, hRead⟩⟩
    · simp only [resolveTimezone_eq_zoneInForce, isStrict_moduleOptions, moduleZone_moduleOptions,
        moduleZone_mapping hOwn]
      rw [IsTakenAsRead]
      rw [hFill] at hKept ⊢
      rcases TimezonePatch.zone_of_ofFields hPart with ⟨hNone, hZone⟩ | ⟨zone, hGiven, hZone⟩
      · rw [hNone, hZone]
        exact zoneInForce_default_iff
      · rw [hGiven, ← hImposed]
        exact zoneInForce_sameText_iff hZone hKept

/-- Options about time zones, and no others. -/
def zoneOnly (own : Fields Value) : Fields Value :=
  [("timezone", .mapping own)]

/-- The zone of Paris, imposed by some value. -/
def parisBy (flag : Value) : Fields Value :=
  zoneOnly [("type", .text "Europe/Paris"), ("strict", flag)]

/-- Where Paris is imposed by a truth value the two forms agree. -/
theorem resolution_by_form_paris :
    ∃ patch, ModulePatch.ofFields (parisBy (.bool true)) = .ok patch ∧
      isStrict (.mapping (parisBy (.bool true))) = isStrict (.moduleOptions patch) ∧
      ∀ taskZone, (resolveTimezone taskZone (.mapping (parisBy (.bool true)))).SameText
        (resolveTimezone taskZone (.moduleOptions patch)) := by
  obtain ⟨patch, hRead⟩ : ∃ patch, ModulePatch.ofFields (parisBy (.bool true)) = .ok patch :=
    ⟨_, rfl⟩
  obtain ⟨hStrict, hZone⟩ := (resolution_by_form hRead).2 _ rfl
  have hTaken : IsTakenAsRead [("type", .text "Europe/Paris"), ("strict", .bool true)]
      patch.fill.timezone.strict :=
    Or.inr ⟨rfl, fun _ => rfl⟩
  exact ⟨patch, hRead, hStrict.2 fun _ => rfl, hZone.2 hTaken⟩

/-- **Zones that depend on the form.** Where Paris is imposed by a word, Tokyo is in force for a task
that asks for it as long as the mapping is consulted, and Paris once it is read.  And where a zone is
imposed without being named, universal time is in force for such a task only once that is read. -/
theorem resolution_differs :
    (∃ patch, ModulePatch.ofFields (parisBy (.text "yes")) = .ok patch ∧
      isStrict (.mapping (parisBy (.text "yes"))) = false ∧
      isStrict (.moduleOptions patch) = true ∧
      resolveTimezone (.text "Asia/Tokyo") (.mapping (parisBy (.text "yes"))) =
        .text "Asia/Tokyo" ∧
      resolveTimezone (.text "Asia/Tokyo") (.moduleOptions patch) = .text "Europe/Paris") ∧
    ∃ patch, ModulePatch.ofFields (zoneOnly [("strict", .bool true)]) = .ok patch ∧
      isStrict (.mapping (zoneOnly [("strict", .bool true)])) = true ∧
      isStrict (.moduleOptions patch) = true ∧
      resolveTimezone (.text "Asia/Tokyo") (.mapping (zoneOnly [("strict", .bool true)])) =
        .text "Asia/Tokyo" ∧
      resolveTimezone (.text "Asia/Tokyo") (.moduleOptions patch) = .text "UTC" :=
  ⟨⟨_, rfl, rfl, rfl, rfl, rfl⟩, _, rfl, rfl, rfl, rfl, rfl⟩

end forms

end Crontab
