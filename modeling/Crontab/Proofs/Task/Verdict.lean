import Crontab.Proofs.Task.FieldRules
import Crontab.Proofs.Task.Whole
import Crontab.Proofs.Time.Conversions

/-!
# The verdict on a task

The rules of tasks said without the validation, and the validation measured against them.  There is a
verdict on every task, unless its zone is a known one whose clocks do not show the present time because
the calendar ends before; and a task is valid exactly if it keeps the rules.

* `IsTaskName`, `OptionsRules`, `MetadataRules`, `TaskRules` — the rules;
* `optionsViolations_eq_nil_iff`, `metadataViolations_eq_nil_iff`, `taskViolations_eq_nil_iff` — no
  violations, and the rules;
* `Value.AsksBeyondCalendar` — tasks on which there is no verdict;
* `Violation.HasText` — violations whose messages can be put into words;
* `validate_decides` — the verdict on a task.
-/

namespace Crontab

open Time

/-! ## The rules -/

/-- The texts that may be names of tasks. -/
structure IsTaskName (text : String) : Prop where
  ne_empty : text ≠ ""
  length_le : text.toList.length ≤ 100
  chars : ∀ c ∈ text.toList,
    'A' ≤ c ∧ c ≤ 'Z' ∨ 'a' ≤ c ∧ c ≤ 'z' ∨ '0' ≤ c ∧ c ≤ '9' ∨ c = ' ' ∨ c = '-'

/-- A value is missing or an integer between two bounds. -/
def Value.IsNullOrBetween (value : Value) (least greatest : Int) : Prop :=
  value = .null ∨ ∃ n, value = .int n ∧ least ≤ n ∧ n ≤ greatest

/-- A value is missing or a truth value. -/
def Value.IsNullOrBool (value : Value) : Prop :=
  value = .null ∨ ∃ b, value = .bool b

/-- A value is missing or a moment. -/
def Value.IsNullOrMoment (value : Value) : Prop :=
  value = .null ∨ ∃ moment, value = .moment moment

/-- A value is missing or an error. -/
def Value.IsNullOrFailure (value : Value) : Prop :=
  value = .null ∨ (∃ kind message, value = .failure kind message) ∨
    ∃ kind message, value = .taskFailure kind message

/-- The rules of task options. -/
structure OptionsRules (options : Value) (now : Moment) : Prop where
  expression : ∃ text schedule, (options.part "expression").text? = some text ∧
    Schedule.parse text = .ok schedule
  timezone : (options.part "timezone").isTruthy = false ∨
    isValidTimezone (options.part "timezone") now = .ok true
  maxRetries : (options.part "max_retries").IsNullOrBetween 0 10
  retryDelay : (options.part "retry_delay").IsNullOrBetween 100 3600000
  timeout : (options.part "timeout").IsNullOrBetween 1000 86400000
  exclusive : (options.part "exclusive").IsNullOrBool
  catchUp : (options.part "catch_up").IsNullOrBool

/-- The rules of metadata. -/
structure MetadataRules (metadata : Value) : Prop where
  runCount : (∃ n, metadata.part "run_count" = .int n) ∨ ∃ x, metadata.part "run_count" = .float x
  createdAt : (metadata.part "created_at").IsNullOrMoment
  updatedAt : (metadata.part "updated_at").IsNullOrMoment
  nextRun : (metadata.part "next_run").IsNullOrMoment
  lastRun : (metadata.part "last_run").IsNullOrMoment
  lastError : (metadata.part "last_error").IsNullOrFailure

/-- The rules of tasks. -/
structure TaskRules (task : Value) (now : Moment) : Prop where
  id : (task.part "id").isTruthy = true
  name : ∃ text, (task.part "name").text? = some text ∧ IsTaskName text
  execute : (task.part "execute").isCallable = true
  status : ∃ status : Status, task.part "status" = .status status ∨
    task.part "status" = .text status.name
  metadata : task.part "metadata" = .null ∨ MetadataRules (task.part "metadata")
  options : task.part "options" ≠ .null ∧ OptionsRules (task.part "options") now

/-! ## The rules field by field -/

section fields

variable {value : Value} {now : Moment}

theorem Value.isNull_iff : value.isNull = true ↔ value = .null := by
  cases value <;> simp [Value.isNull]

/-- The characters of names are the letters and digits, the space and the hyphen. -/
theorem isNameChar_iff {c : Char} : isNameChar c = true ↔
    'A' ≤ c ∧ c ≤ 'Z' ∨ 'a' ≤ c ∧ c ≤ 'z' ∨ '0' ≤ c ∧ c ≤ '9' ∨ c = ' ' ∨ c = '-' := by
  have hChar : isNameChar c =
      (decide ('A' ≤ c ∧ c ≤ 'Z') || (decide ('a' ≤ c) && decide (c ≤ 'z')) ||
        (decide ('0' ≤ c) && decide (c ≤ '9')) || c = ' ' || c = '-') := rfl
  simp only [hChar, Bool.or_eq_true, Bool.and_eq_true, decide_eq_true_eq, or_assoc]

/-- The text of a value that counts as present is not empty. -/
theorem isTruthy_iff_of_text? {text : String} (h : value.text? = some text) :
    value.isTruthy = true ↔ text ≠ "" := by
  cases value with
  | text own =>
    obtain rfl := Option.some.inj h
    simp [Value.isTruthy]
  | status own =>
    obtain rfl := Option.some.inj h
    cases own <;> decide
  | _ => cases h

/-- Nothing is wrong with a name exactly when it is the text of a task name. -/
theorem nameViolations_eq_nil_iff :
    nameViolations value = [] ↔ ∃ text, value.text? = some text ∧ IsTaskName text := by
  unfold nameViolations
  cases hText : value.text? with
  | none =>
    constructor
    · intro h
      by_cases hGiven : value.isTruthy = true
      · rw [if_pos hGiven] at h
        cases h
      · rw [if_neg hGiven] at h
        cases h
    · rintro ⟨_, ⟨⟩, -⟩
  | some text =>
    have hNe := isTruthy_iff_of_text? hText
    simp only [Option.some.injEq, exists_eq_left']
    by_cases hGiven : value.isTruthy = true
    · rw [if_pos hGiven]
      simp only [List.append_eq_nil_iff, violates_eq_nil_iff, decide_eq_false_iff_not, not_lt,
        Bool.not_eq_false', List.all_eq_true, isNameChar_iff]
      constructor
      · rintro ⟨hLength, hChars⟩
        exact ⟨hNe.1 hGiven, hLength, hChars⟩
      · intro h
        exact ⟨h.length_le, h.chars⟩
    · rw [if_neg hGiven]
      constructor
      · intro h
        cases h
      · intro h
        exact absurd (hNe.2 h.ne_empty) hGiven

/-- Nothing is wrong with a status exactly when it is a state or the name of one. -/
theorem statusViolations_eq_nil_iff : statusViolations value = [] ↔
    ∃ status : Status, value = .status status ∨ value = .text status.name := by
  rw [statusViolations, violates_eq_nil_iff, Option.isNone_eq_false_iff, Option.isSome_iff_exists]
  exact exists_congr fun status => bind_ofName?_eq_some_iff

/-- Nothing is wrong with an expression exactly when it is a text that is read. -/
theorem expressionViolations_eq_nil_iff : expressionViolations value = [] ↔
    ∃ text schedule, value.text? = some text ∧ Schedule.parse text = .ok schedule := by
  constructor
  · intro h
    obtain ⟨schedule, hSchedule⟩ := exists_schedule h
    unfold Schedule.ofValue at hSchedule
    split at hSchedule
    · next text hText => exact ⟨text, schedule, hText, hSchedule⟩
    · cases hSchedule
  · rintro ⟨text, schedule, hText, hSchedule⟩
    have hNe : text ≠ "" := by
      rintro rfl
      cases hSchedule
    have hValue : Schedule.ofValue value = .ok schedule := by rw [Schedule.ofValue, hText]; exact hSchedule
    rw [expressionViolations, if_pos ((isTruthy_iff_of_text? hText).2 hNe), hValue]

/-- Nothing is wrong with a zone exactly when it is missing or valid. -/
theorem timezoneViolations_eq_nil_iff {listed : List Violation}
    (h : timezoneViolations value now = .ok listed) : listed = [] ↔
      value.isTruthy = false ∨ isValidTimezone value now = .ok true := by
  obtain ⟨valid, hValid, hListed⟩ := bind_eq_ok.1 h
  rw [← Except.ok.inj hListed, violates_eq_nil_iff, hValid]
  cases value.isTruthy <;> cases valid <;> simp

/-- Nothing is wrong with a bounded option exactly when it is `null` or within its bounds. -/
theorem isNullOrBetween_iff {least greatest : Int} {below above : Violation} :
    boundViolations value least greatest below above = [] ↔
      value.IsNullOrBetween least greatest := by
  unfold boundViolations Value.IsNullOrBetween
  cases value with
  | null => simp [Value.isNull]
  | int n => simp [Value.isNull, Value.isIntegerFrom, Value.exceeds]
  | _ => simp [Value.isNull, Value.isIntegerFrom]

/-- Nothing is wrong with a flag exactly when it is `null` or a truth value. -/
theorem isNullOrBool_iff {own : Violation} :
    boolViolations value own = [] ↔ value.IsNullOrBool := by
  unfold boolViolations Value.IsNullOrBool
  cases value <;> simp [Value.isNull, Value.isBool]

/-- Nothing is wrong with a moment exactly when it is `null` or a moment. -/
theorem isNullOrMoment_iff {label : String} :
    momentViolations value label = [] ↔ value.IsNullOrMoment := by
  unfold momentViolations Value.IsNullOrMoment
  cases value <;> simp [Value.isNull, Value.isMoment]

/-- Numbers are integers and floating point numbers. -/
theorem isNumber_iff :
    value.isNumber = true ↔ (∃ n, value = .int n) ∨ ∃ x, value = .float x := by
  cases value <;> simp [Value.isNumber]

/-- Nothing is wrong with an error exactly when it is `null` or an error. -/
theorem isNullOrFailure_iff :
    (!value.isNull && !value.isFailure) = false ↔ value.IsNullOrFailure := by
  unfold Value.IsNullOrFailure
  cases value <;> simp [Value.isNull, Value.isFailure]

end fields

/-! ## The rules of options, metadata and tasks -/

section rules

variable {options metadata task : Value} {now : Moment} {listed : List Violation}

/-- Options without violations are those that keep the rules. -/
theorem optionsViolations_eq_nil_iff (h : optionsViolations options now = .ok listed) :
    listed = [] ↔ OptionsRules options now := by
  obtain ⟨zone, hZone, rfl⟩ := map_eq_ok.1 (optionsViolations_eq options now ▸ h)
  simp only [otherViolations, List.append_eq_nil_iff, expressionViolations_eq_nil_iff,
    timezoneViolations_eq_nil_iff hZone, isNullOrBetween_iff, isNullOrBool_iff]
  constructor
  · rintro ⟨⟨hExpression, hTimezone⟩, hRetries, hDelay, hTimeout, hExclusive, hCatchUp⟩
    exact ⟨hExpression, hTimezone, hRetries, hDelay, hTimeout, hExclusive, hCatchUp⟩
  · intro h
    exact ⟨⟨h.expression, h.timezone⟩, h.maxRetries, h.retryDelay, h.timeout, h.exclusive, h.catchUp⟩

/-- Metadata without violations are those that are missing or keep the rules. -/
theorem metadataViolations_eq_nil_iff :
    metadataViolations metadata = [] ↔ metadata = .null ∨ MetadataRules metadata := by
  unfold metadataViolations
  by_cases hNull : metadata.isNull = true
  · rw [if_pos hNull]
    exact ⟨fun _ => .inl (Value.isNull_iff.1 hNull), fun _ => rfl⟩
  have hGiven : metadata ≠ .null := fun h => hNull (Value.isNull_iff.2 h)
  rw [if_neg hNull, or_iff_right hGiven]
  simp only [List.append_eq_nil_iff, violates_eq_nil_iff, isNullOrMoment_iff, isNullOrFailure_iff,
    Bool.not_eq_false', isNumber_iff]
  constructor
  · rintro ⟨⟨⟨⟨⟨hCount, hCreated⟩, hUpdated⟩, hNext⟩, hLast⟩, hError⟩
    exact ⟨hCount, hCreated, hUpdated, hNext, hLast, hError⟩
  · intro h
    exact ⟨⟨⟨⟨⟨h.runCount, h.createdAt⟩, h.updatedAt⟩, h.nextRun⟩, h.lastRun⟩, h.lastError⟩

/-- Nothing is wrong with options exactly when they are there and follow their rules. -/
theorem requiredOptionsViolations_eq_nil_iff (h : requiredOptionsViolations options now = .ok listed) :
    listed = [] ↔ options ≠ .null ∧ OptionsRules options now := by
  unfold requiredOptionsViolations at h
  split at h
  · next hNull =>
    rw [← Except.ok.inj h]
    exact ⟨nofun, fun hGiven => absurd (Value.isNull_iff.1 hNull) hGiven.1⟩
  · next hGiven =>
    have hNe : options ≠ .null := fun hNull => hGiven (Value.isNull_iff.2 hNull)
    rw [optionsViolations_eq_nil_iff h]
    exact ⟨fun hRules => ⟨hNe, hRules⟩, fun hRules => hRules.2⟩

/-- Tasks without violations are those that keep the rules. -/
theorem taskViolations_eq_nil_iff (h : taskViolations task now = .ok listed) :
    listed = [] ↔ TaskRules task now := by
  obtain ⟨options, hOptions, hListed⟩ := bind_eq_ok.1 h
  rw [← Except.ok.inj hListed]
  simp only [List.append_eq_nil_iff, violates_eq_nil_iff, Bool.not_eq_false',
    nameViolations_eq_nil_iff, statusViolations_eq_nil_iff, metadataViolations_eq_nil_iff,
    requiredOptionsViolations_eq_nil_iff hOptions]
  constructor
  · rintro ⟨⟨⟨⟨⟨hId, hName⟩, hExecute⟩, hStatus⟩, hOptions⟩, hMetadata⟩
    exact ⟨hId, hName, hExecute, hStatus, hMetadata, hOptions⟩
  · intro h
    exact ⟨⟨⟨⟨⟨h.id, h.name⟩, h.execute⟩, h.status⟩, h.options⟩, h.metadata⟩

end rules

/-! ## Tasks without a verdict -/

/-- The zone of a task is a known one whose clocks have no reading in the calendar when clocks set to
universal time show `utc`. -/
structure Value.AsksBeyondCalendar (task : Value) (utc : Wall) : Prop where
  options : task.part "options" ≠ .null
  timezone : ((task.part "options").part "timezone").isTruthy = true
  unreadable : ∃ name zone, zoneName? ((task.part "options").part "timezone") = some name ∧
    zoneOf name = .ok zone ∧ zone.wallAt? utc = none

section calendar

variable {zone task : Value} {utc : Wall} {cause : OutOfCalendar}

/-- A present moment is put on the clocks of a zone unless they have no reading in the calendar. -/
theorem inZone?_universal_eq_error_iff {known : Zone} :
    (Moment.universal utc).inZone? known = .error cause ↔ known.wallAt? utc = none := by
  have hIsIn : (Moment.universal utc).isIn known = false := rfl
  rw [Moment.inZone?, hIsIn, if_neg Bool.false_ne_true, utc?_universal, ok_bind,
    Moment.ofUtcZone?]
  cases known.wallAt? utc <;> simp

/-- Asking whether a zone is valid fails exactly when its clocks show nothing at that time. -/
theorem isValidTimezone_eq_error_iff :
    isValidTimezone zone (.universal utc) = .error cause ↔ zone.isTruthy = true ∧
      ∃ name known, zoneName? zone = some name ∧ zoneOf name = .ok known ∧
        known.wallAt? utc = none := by
  unfold isValidTimezone zoneOf
  by_cases hGiven : zone.isTruthy = true
  · simp only [if_pos hGiven]
    cases hName : zoneName? zone with
    | none => simp [hGiven]
    | some name =>
      cases hKnown : name.text?.bind Zone.ofKey? with
      | none => simp [hGiven, hKnown]
      | some known => simp [hGiven, hKnown, map_eq_error, inZone?_universal_eq_error_iff]
  · simp [hGiven]

/-- There is no verdict on the violations of a task exactly if its zone is beyond the calendar. -/
theorem taskViolations_eq_error_iff :
    taskViolations task (.universal utc) = .error cause ↔ task.AsksBeyondCalendar utc := by
  have hStep : taskViolations task (.universal utc) = .error cause ↔
      requiredOptionsViolations (task.part "options") (.universal utc) = .error cause := by
    rw [taskViolations, bind_eq_error]
    exact ⟨fun h => h.resolve_right (by rintro ⟨_, _, ⟨⟩⟩), .inl⟩
  rw [hStep]
  unfold requiredOptionsViolations
  by_cases hNull : (task.part "options").isNull = true
  · rw [if_pos hNull]
    exact ⟨nofun, fun h => absurd (Value.isNull_iff.1 hNull) h.options⟩
  have hGiven : task.part "options" ≠ .null := fun h => hNull (Value.isNull_iff.2 h)
  rw [if_neg hNull, optionsViolations_eq, map_eq_error, timezoneViolations, bind_eq_error,
    isValidTimezone_eq_error_iff]
  constructor
  · rintro (⟨hTimezone, hUnreadable⟩ | ⟨_, -, ⟨⟩⟩)
    exact ⟨hGiven, hTimezone, hUnreadable⟩
  · exact fun h => .inl ⟨h.timezone, h.unreadable⟩

/-- That happens on the first and on the last day of the calendar only. -/
theorem Value.AsksBeyondCalendar.near_end (h : task.AsksBeyondCalendar utc) :
    utc.count < day ∨ dayCount * day ≤ utc.count + day := by
  obtain ⟨name, known, -, hKnown, hNone⟩ := h.unreadable
  by_contra hInside
  rw [not_or, Nat.not_lt, Nat.not_le] at hInside
  obtain ⟨wall, hWall⟩ := Zone.exists_wallAt? (mem_all_of_zoneOf hKnown) hInside.1 hInside.2
  rw [hWall] at hNone
  cases hNone

end calendar

/-! ## Messages -/

/-- The message of a violation can be put into words: what it shows has a text. -/
def Violation.HasText : Violation → Prop
  | .badTimezone given => given.isPrintable = true
  | _ => True

section messages

variable {value task : Value} {now : Moment} {listed : List Violation}

/-- Fields have printable values exactly when each of them has one. -/
theorem Value.havePrintableValues_iff {fields : Fields Value} :
    Value.havePrintableValues fields = true ↔ ∀ field ∈ fields, field.2.isPrintable = true := by
  induction fields with
  | nil => simp [Value.havePrintableValues]
  | cons field fields ih =>
    obtain ⟨name, own⟩ := field
    simp [Value.havePrintableValues, ih]

/-- A text that may be left out is printable. -/
theorem Value.isPrintable_ofText? (text : Option String) :
    (Value.ofText? text).isPrintable = true := by
  cases text <;> rfl

/-- An integer that may be left out is printable if it is. -/
theorem Value.isPrintable_ofInt? (n : Option Int) :
    (Value.ofInt? n).isPrintable = n.all Value.isPrintableInt := by
  cases n <;> rfl

/-- The attributes of a value that has a text have texts, but for the kind of an error, which is not
shown. -/
theorem Value.isPrintable_of_mem_attributes (h : value.isPrintable = true) {field : String × Value}
    (hField : field ∈ value.attributes) (hName : field.1 ≠ "error_type") :
    field.2.isPrintable = true := by
  have hAll : Value.havePrintableValues value.attributes = true → field.2.isPrintable = true :=
    fun hValues => Value.havePrintableValues_iff.1 hValues field hField
  cases value with
  | entity shape given =>
    rcases List.mem_append.1 hField with hField | hField
    · exact Value.havePrintableValues_iff.1 h field hField
    · have hDefaults : ∀ own ∈ shape.defaults, own.2.isPrintable = true := by
        cases shape <;> decide
      exact hDefaults field hField
  | taskFailure kind message =>
    obtain rfl := List.mem_singleton.1 hField
    exact absurd rfl hName
  | storageOptions patch =>
    apply hAll
    simp only [Value.attributes, StorageOptions.attributes, Value.havePrintableValues,
      Value.isPrintable_ofText?, Value.isPrintable_ofInt?, Value.isPrintable, Bool.and_true,
      Bool.true_and]
    exact h
  | moduleOptions patch =>
    apply hAll
    simp only [Value.attributes, ModulePatch.attributes, Value.havePrintableValues,
      Value.isPrintable_ofText?, Value.isPrintable, Bool.and_true, Bool.true_and]
    exact h
  | _ => exact hAll rfl

/-- The parts of a printable value are printable. -/
theorem Value.isPrintable_part (h : value.isPrintable = true) {name : String}
    (hName : name ≠ "error_type") : (value.part name).isPrintable = true := by
  unfold Value.part
  split
  · next fields =>
    cases hField : Fields.get? fields name with
    | none => rfl
    | some own => exact Value.isPrintable_of_get? h hField
  · cases hField : value.attribute? name with
    | none => rfl
    | some own => exact Value.isPrintable_of_mem_attributes h (Fields.mem_of_get? hField) hName

/-- What the rules say about a task that has a text can be put into words: only a zone is shown, and it
is a part of the task. -/
theorem hasText_of_mem_taskViolations (hGiven : task.isNull = false) (hTask : task.isPrintable = true)
    (h : taskViolations task now = .ok listed) : ∀ violation ∈ listed, violation.HasText := by
  intro violation hViolation
  cases violation with
  | badTimezone given =>
    have hField : ∃ field : RuledField, .badTimezone given ∈ field.violationsIn task now := by
      rw [taskViolations_eq_flatMap hGiven h] at hViolation
      simp only [List.mem_append, List.mem_flatMap, RuledField.mem_violates_iff] at hViolation
      rcases hViolation with ⟨field, -, hField⟩ | ⟨-, ⟨⟩⟩ | ⟨field, -, hField⟩
      · exact ⟨field, hField⟩
      · exact ⟨field, hField⟩
    obtain ⟨field, hField⟩ := hField
    obtain rfl := RuledField.owns_unique (RuledField.owns_of_mem_violationsIn hField)
      (RuledField.owns_badTimezone given)
    unfold RuledField.violationsIn at hField
    split at hField
    · simp at hField
    · cases RuledField.eq_badTimezone_of_mem_violations hField
      exact Value.isPrintable_part (Value.isPrintable_part hTask (by decide)) (by decide)
  | _ => trivial

end messages

/-- **The rules decide.** There is no verdict on a task exactly if its zone is a known one whose clocks
have no reading in the calendar, which can only be on its first and on its last day.  Otherwise there
is a verdict, whose errors can all be put into words if the task has a text, and the task is valid
exactly if it keeps the rules. -/
theorem validate_decides {task : Value} (hGiven : task ≠ .null) (hTask : task.isPrintable = true)
    (utc : Wall) :
    (∀ error, Subject.task.validate task (.universal utc) = .error error ↔
      error = .outOfCalendar ∧ task.AsksBeyondCalendar utc) ∧
    (task.AsksBeyondCalendar utc → utc.count < day ∨ dayCount * day ≤ utc.count + day) ∧
    ∀ verdict, Subject.task.validate task (.universal utc) = .ok verdict →
      (verdict.valid = true ↔ TaskRules task (.universal utc)) ∧
        ∃ listed : List Violation, verdict.errors = listed.map Violation.message ∧
          ∀ violation ∈ listed, violation.HasText := by
  have hNull : task.isNull = false := Bool.eq_false_iff.2 fun h => hGiven (Value.isNull_iff.1 h)
  refine ⟨fun error => ?_, fun h => h.near_end, fun verdict h => ?_⟩
  · unfold Subject.validate
    rw [hNull, if_neg Bool.false_ne_true]
    split
    · next listed hListed =>
      refine ⟨nofun, fun ⟨_, hBeyond⟩ => ?_⟩
      have hError : taskViolations task (.universal utc) = .error ⟨⟩ :=
        taskViolations_eq_error_iff.2 hBeyond
      cases hListed.symm.trans hError
    · next cause hCause =>
      refine ⟨fun h => ⟨(Except.error.inj h).symm, taskViolations_eq_error_iff.1 hCause⟩, ?_⟩
      rintro ⟨rfl, -⟩
      rfl
  · obtain ⟨-, listed, hListed, hErrors⟩ := Subject.validate_eq_ok_iff.1 h
    refine ⟨?_, listed, hErrors, hasText_of_mem_taskViolations hNull hTask hListed⟩
    rw [Verdict.valid, hErrors, List.isEmpty_iff, List.map_eq_nil_iff]
    exact taskViolations_eq_nil_iff hListed

/-- A task on the clocks of Kiritimati, which are fourteen hours ahead of universal time. -/
def islandTask : Value :=
  .mapping [("id", .text "a"), ("name", .text "report"), ("execute", .action),
    ("status", .text "pending"),
    ("options", .mapping
      [("expression", .text "0 6 * * 1"), ("timezone", .text "Pacific/Kiritimati")])]

/-- Ten o'clock on 31 December 9999. -/
def lastMorning : Wall := ⟨(dayCount - 1) * day + 10 * hour, by decide⟩

/-- Ten o'clock three days earlier. -/
def earlierMorning : Wall := ⟨(dayCount - 4) * day + 10 * hour, by decide⟩

/-- On the last morning of the calendar the task on the island is not validated, and before it is.
-/
theorem validate_decides_islandTask :
    islandTask ≠ .null ∧ islandTask.isPrintable = true ∧
    Subject.task.validate islandTask (.universal earlierMorning) = .ok ⟨[]⟩ ∧
    TaskRules islandTask (.universal earlierMorning) ∧
    Subject.task.validate islandTask (.universal lastMorning) = .error .outOfCalendar ∧
    islandTask.AsksBeyondCalendar lastMorning := by
  have hGiven : islandTask ≠ .null := nofun
  have hTask : islandTask.isPrintable = true := rfl
  have hVerdict : Subject.task.validate islandTask (.universal earlierMorning) = .ok ⟨[]⟩ := by
    decide +kernel
  have hError : Subject.task.validate islandTask (.universal lastMorning) =
      .error .outOfCalendar := by
    decide +kernel
  obtain ⟨-, -, hDecides⟩ := validate_decides hGiven hTask earlierMorning
  obtain ⟨hErrors, -, -⟩ := validate_decides hGiven hTask lastMorning
  exact ⟨hGiven, hTask, hVerdict, (hDecides _ hVerdict).1.1 rfl, hError,
    ((hErrors _).1 hError).2⟩

/-- On the last morning of the calendar there is no verdict on a task, though nothing is wrong with
it but that its clocks are past the end. -/
theorem validate_lastMorning :
    islandTask ≠ .null ∧ islandTask.isPrintable = true ∧
      ∀ verdict, Subject.task.validate islandTask (.universal lastMorning) ≠ .ok verdict := by
  have hError : Subject.task.validate islandTask (.universal lastMorning) =
      .error .outOfCalendar := by
    decide +kernel
  refine ⟨nofun, rfl, fun verdict h => ?_⟩
  rw [hError] at h
  cases h

end Crontab
