import Crontab.Proofs.Task.Validity

/-!
# The rules of the fields

The validation of a task goes through the fields of the task, of its options and of its metadata.  Each
field has rules of its own, which see nothing but the value of the field, and the violations of a task
are those of its fields one after the other.

* `RuledField` — the fields that there are rules about, and where they are;
* `RuledField.violations`, `RuledField.violationsIn` — what the rules of a field say about a value, and
  about the value that a task has there;
* `optionsViolations_eq_flatMap`, `taskViolations_eq_flatMap` — violations field by field;
* `RuledField.owns` — the messages of the rules of a field;
* `owns_unique` — no message belongs to two fields.
-/

namespace Crontab

open Time

/-- The fields of a task, of its options and of its metadata that there are rules about. -/
inductive RuledField
  | id
  | name
  | execute
  | status
  | expression
  | timezone
  | maxRetries
  | retryDelay
  | timeout
  | exclusive
  | catchUp
  | runCount
  | createdAt
  | updatedAt
  | nextRun
  | lastRun
  | lastError
deriving DecidableEq, Repr

/-- The part of a part and so on, along a path of names. -/
def Value.partAt (value : Value) (path : List String) : Value :=
  path.foldl Value.part value

namespace RuledField

/-- The fields of the task itself, in the order in which they are checked. -/
def ofTask : List RuledField :=
  [.id, .name, .execute, .status]

/-- The fields of the options. -/
def ofOptions : List RuledField :=
  [.expression, .timezone, .maxRetries, .retryDelay, .timeout, .exclusive, .catchUp]

/-- The fields of the metadata. -/
def ofMetadata : List RuledField :=
  [.runCount, .createdAt, .updatedAt, .nextRun, .lastRun, .lastError]

/-- All fields that there are rules about. -/
def all : List RuledField :=
  ofTask ++ (ofOptions ++ ofMetadata)

/-- The names that lead from a task to a field. -/
def path : RuledField → List String
  | .id => ["id"]
  | .name => ["name"]
  | .execute => ["execute"]
  | .status => ["status"]
  | .expression => ["options", "expression"]
  | .timezone => ["options", "timezone"]
  | .maxRetries => ["options", "max_retries"]
  | .retryDelay => ["options", "retry_delay"]
  | .timeout => ["options", "timeout"]
  | .exclusive => ["options", "exclusive"]
  | .catchUp => ["options", "catch_up"]
  | .runCount => ["metadata", "run_count"]
  | .createdAt => ["metadata", "created_at"]
  | .updatedAt => ["metadata", "updated_at"]
  | .nextRun => ["metadata", "next_run"]
  | .lastRun => ["metadata", "last_run"]
  | .lastError => ["metadata", "last_error"]

/-- The value that a task has in a field. -/
def valueIn (field : RuledField) (task : Value) : Value :=
  task.partAt field.path

/-- The task, options or metadata that a field of a task belongs to. -/
def holderIn (field : RuledField) (task : Value) : Value :=
  task.partAt field.path.dropLast

/-- What the rules of a field say about a value.  Nothing is said about a zone whose clocks cannot be
asked for the time. -/
def violations (field : RuledField) (value : Value) (now : Moment) : List Violation :=
  match field with
  | .id => violates (!value.isTruthy) .missingId
  | .name => nameViolations value
  | .execute => violates (!value.isCallable) .notExecutable
  | .status => statusViolations value
  | .expression => expressionViolations value
  | .timezone => (timezoneViolations value now).toOption.getD []
  | .maxRetries => boundViolations value 0 retryLimit .retriesNotNatural .tooManyRetries
  | .retryDelay =>
    boundViolations value retryDelayBounds.1 retryDelayBounds.2 .retryDelayTooShort
      .retryDelayTooLong
  | .timeout =>
    boundViolations value timeoutBounds.1 timeoutBounds.2 .timeoutTooShort .timeoutTooLong
  | .exclusive => boolViolations value .exclusiveNotBool
  | .catchUp => boolViolations value .catchUpNotBool
  | .runCount => violates (!value.isNumber) .runCountNotNumber
  | .createdAt => momentViolations value "createdAt"
  | .updatedAt => momentViolations value "updatedAt"
  | .nextRun => momentViolations value "nextRun"
  | .lastRun => momentViolations value "lastRun"
  | .lastError => violates (!value.isNull && !value.isFailure) .lastErrorNotError

/-- What the rules of a field say about a task: nothing if what the field belongs to is missing. -/
def violationsIn (field : RuledField) (task : Value) (now : Moment) : List Violation :=
  if (field.holderIn task).isNull then [] else field.violations (field.valueIn task) now

theorem mem_all (field : RuledField) : field ∈ all := by
  cases field <;> decide

theorem nodup_all : all.Nodup := by decide

end RuledField

open RuledField

/-! ## Violations field by field -/

section decomposition

variable {options task : Value} {now later : Moment} {listed : List Violation}

/-- The violations of options are those of their fields. -/
theorem optionsViolations_eq_flatMap (h : optionsViolations options now = .ok listed) :
    listed = ofOptions.flatMap fun field =>
      field.violations (options.partAt (field.path.drop 1)) now := by
  obtain ⟨zone, hZone, hListed⟩ := bind_eq_ok.1 h
  have hZoneList : RuledField.timezone.violations (options.part "timezone") now = zone := by
    simp only [RuledField.violations, hZone, Except.toOption, Option.getD_some]
  rw [← Except.ok.inj hListed, ← hZoneList]
  simp only [ofOptions, List.flatMap_cons, List.flatMap_nil, List.append_nil, List.append_assoc]
  rfl

/-- The violations of metadata are those of their fields. -/
theorem metadataViolations_eq_flatMap (task : Value) (now : Moment) :
    metadataViolations (task.part "metadata") =
      ofMetadata.flatMap fun field => field.violationsIn task now := by
  have hHolder : ∀ field ∈ ofMetadata, field.holderIn task = task.part "metadata" := by
    simp only [ofMetadata, List.forall_mem_cons]
    exact ⟨rfl, rfl, rfl, rfl, rfl, rfl, List.forall_mem_nil _⟩
  unfold metadataViolations
  split
  · next hNull =>
    refine (List.flatMap_eq_nil_iff.2 fun field hField => ?_).symm
    rw [violationsIn, hHolder field hField, if_pos hNull]
  · next hGiven =>
    rw [List.flatMap_congr fun field hField => by
      rw [violationsIn, hHolder field hField, if_neg hGiven]]
    simp only [ofMetadata, List.flatMap_cons, List.flatMap_nil, List.append_nil, List.append_assoc]
    rfl

/-- The violations of the options of a task are those of their fields, or that there are none. -/
theorem requiredOptionsViolations_eq_flatMap
    (h : requiredOptionsViolations (task.part "options") now = .ok listed) :
    listed = violates (task.part "options").isNull .missingOptions ++
      ofOptions.flatMap fun field => field.violationsIn task now := by
  have hHolder : ∀ field ∈ ofOptions, field.holderIn task = task.part "options" ∧
      field.valueIn task = (task.part "options").partAt (field.path.drop 1) := by
    simp only [ofOptions, List.forall_mem_cons]
    exact ⟨⟨rfl, rfl⟩, ⟨rfl, rfl⟩, ⟨rfl, rfl⟩, ⟨rfl, rfl⟩, ⟨rfl, rfl⟩, ⟨rfl, rfl⟩, ⟨rfl, rfl⟩,
      List.forall_mem_nil _⟩
  unfold requiredOptionsViolations at h
  split at h
  · next hNull =>
    have hNone : (ofOptions.flatMap fun field => field.violationsIn task now) = [] := by
      refine List.flatMap_eq_nil_iff.2 fun field hField => ?_
      rw [violationsIn, (hHolder field hField).1, if_pos hNull]
    rw [hNone, hNull, ← Except.ok.inj h]
    rfl
  · next hGiven =>
    have hPresent : violates false .missingOptions = [] := rfl
    rw [optionsViolations_eq_flatMap h, Bool.eq_false_iff.2 hGiven, hPresent, List.nil_append]
    refine List.flatMap_congr fun field hField => ?_
    rw [violationsIn, (hHolder field hField).1, (hHolder field hField).2, if_neg hGiven]

/-- **Field by field.** The violations of a task are those of its fields, one after the other; in front
of the fields of its options it says so if there are none. -/
theorem taskViolations_eq_flatMap (hGiven : task.isNull = false)
    (h : taskViolations task now = .ok listed) :
    listed = (ofTask.flatMap fun field => field.violationsIn task now) ++
      (violates (task.part "options").isNull .missingOptions ++
        (ofOptions ++ ofMetadata).flatMap fun field => field.violationsIn task now) := by
  obtain ⟨options, hOptions, hListed⟩ := bind_eq_ok.1 h
  have hTask : (ofTask.flatMap fun field => field.violationsIn task now) =
      violates (!(task.part "id").isTruthy) .missingId ++ nameViolations (task.part "name") ++
        violates (!(task.part "execute").isCallable) .notExecutable ++
        statusViolations (task.part "status") := by
    have hHolder : ∀ field ∈ ofTask, field.holderIn task = task := by
      simp only [ofTask, List.forall_mem_cons]
      exact ⟨rfl, rfl, rfl, rfl, List.forall_mem_nil _⟩
    rw [List.flatMap_congr fun field hField => by
      rw [violationsIn, hHolder field hField, hGiven, if_neg Bool.false_ne_true]]
    simp only [ofTask, List.flatMap_cons, List.flatMap_nil, List.append_nil, List.append_assoc]
    rfl
  rw [← Except.ok.inj hListed, hTask, List.flatMap_append, ← metadataViolations_eq_flatMap,
    ← List.append_assoc (violates _ _), ← requiredOptionsViolations_eq_flatMap hOptions]
  simp only [List.append_assoc]

end decomposition

/-! ## Messages -/

/-- The errors of a verdict are the messages of the violations. -/
theorem Subject.validate_eq_ok_iff {subject : Subject} {given : Value} {now : Moment}
    {verdict : Verdict} :
    subject.validate given now = .ok verdict ↔ given.isNull = false ∧
      ∃ listed, subject.violations given now = .ok listed ∧
        verdict.errors = listed.map Violation.message := by
  unfold Subject.validate
  cases hNull : given.isNull with
  | true => simp
  | false =>
    cases subject.violations given now with
    | error cause => simp
    | ok listed =>
      simp only [Bool.false_eq_true, if_false, true_and, Except.ok.injEq, exists_eq_left']
      exact ⟨fun h => h ▸ rfl, fun h => by cases verdict; exact congrArg _ h.symm⟩

namespace RuledField

/-- How the messages of the rules of a field start.  They are quoted in full as far as they do not say
what was found. -/
def openings : RuledField → List String
  | .id => [Violation.missingId.message]
  | .name =>
    [Violation.missingName.message, Violation.nameNotText.message, Violation.nameTooLong.message,
     Violation.nameCharacters.message]
  | .execute => [Violation.notExecutable.message]
  | .status => [Violation.unknownStatus.message]
  | .expression => [Violation.missingExpression.message, "Invalid cron expression: "]
  | .timezone => ["Invalid timezone: "]
  | .maxRetries => [Violation.retriesNotNatural.message, Violation.tooManyRetries.message]
  | .retryDelay => [Violation.retryDelayTooShort.message, Violation.retryDelayTooLong.message]
  | .timeout => [Violation.timeoutTooShort.message, Violation.timeoutTooLong.message]
  | .exclusive => [Violation.exclusiveNotBool.message]
  | .catchUp => [Violation.catchUpNotBool.message]
  | .runCount => [Violation.runCountNotNumber.message]
  | .createdAt => [(Violation.notAMoment "createdAt").message]
  | .updatedAt => [(Violation.notAMoment "updatedAt").message]
  | .nextRun => [(Violation.notAMoment "nextRun").message]
  | .lastRun => [(Violation.notAMoment "lastRun").message]
  | .lastError => [Violation.lastErrorNotError.message]

/-- Whether a message is one of the rules of a field. -/
def owns (field : RuledField) (message : String) : Bool :=
  field.openings.any fun opening => opening.toList.isPrefixOf message.toList

variable {field other : RuledField} {message : String}

/-- A field owns the messages that start with one of its openings. -/
theorem owns_iff : field.owns message = true ↔
    ∃ opening ∈ field.openings, opening.toList <+: message.toList := by
  simp only [owns, List.any_eq_true, List.isPrefixOf_iff_prefix]

/-- A field owns its openings themselves. -/
theorem owns_of_mem (h : message ∈ field.openings) : field.owns message = true :=
  owns_iff.2 ⟨message, h, List.prefix_rfl⟩

/-- No message of a field starts as those of another one do. -/
theorem openings_apart : ∀ field ∈ all, ∀ other ∈ all, field ≠ other →
    ∀ opening ∈ field.openings, ∀ start ∈ other.openings,
      opening.toList.isPrefixOf start.toList = false := by
  decide +kernel

/-- A message belongs to one field at most. -/
theorem owns_unique (h : field.owns message = true) (hOther : other.owns message = true) :
    field = other := by
  obtain ⟨opening, hOpening, hPrefix⟩ := owns_iff.1 h
  obtain ⟨start, hStart, hOtherPrefix⟩ := owns_iff.1 hOther
  by_contra hNe
  rcases List.prefix_or_prefix_of_prefix hPrefix hOtherPrefix with hLe | hLe
  · have hApart := openings_apart field field.mem_all other other.mem_all hNe opening hOpening start
      hStart
    rw [List.isPrefixOf_iff_prefix.2 hLe] at hApart
    cases hApart
  · have hApart := openings_apart other other.mem_all field field.mem_all (Ne.symm hNe) start hStart
      opening hOpening
    rw [List.isPrefixOf_iff_prefix.2 hLe] at hApart
    cases hApart

/-- That there are no options is not a matter of any field. -/
theorem not_owns_missingOptions (field : RuledField) :
    field.owns Violation.missingOptions.message = false := by
  have hAll : ∀ field ∈ all, field.owns Violation.missingOptions.message = false := by
    decide +kernel
  exact hAll field field.mem_all

/-- A rule is violated by its own violation, and only under its condition. -/
theorem mem_violates_iff {condition : Bool} {own violation : Violation} :
    violation ∈ violates condition own ↔ condition = true ∧ violation = own := by
  cases condition <;> simp [violates]

/-- A field owns the message of a rule that opens with one of its openings. -/
theorem owns_of_mem_violates {condition : Bool} {own violation : Violation}
    (h : violation ∈ violates condition own) (hOwn : own.message ∈ field.openings) :
    field.owns violation.message = true := by
  obtain ⟨-, rfl⟩ := mem_violates_iff.1 h
  exact owns_of_mem hOwn

/-- A field owns the messages about its bounds. -/
theorem owns_of_mem_boundViolations {value : Value} {least greatest : Int}
    {below above violation : Violation}
    (h : violation ∈ boundViolations value least greatest below above)
    (hOpenings : field.openings = [below.message, above.message]) :
    field.owns violation.message = true := by
  unfold boundViolations at h
  split at h
  · simp at h
  · rcases List.mem_append.1 h with h | h
    · exact owns_of_mem_violates h (by simp [hOpenings])
    · exact owns_of_mem_violates h (by simp [hOpenings])

/-- The messages about the name of a task are those of the name. -/
theorem owns_of_mem_nameViolations {value : Value} {violation : Violation}
    (h : violation ∈ nameViolations value) : RuledField.name.owns violation.message = true := by
  unfold nameViolations at h
  split at h
  · split at h
    · obtain rfl := List.mem_singleton.1 h
      exact owns_of_mem (by simp [openings])
    · rcases List.mem_append.1 h with h | h
      · exact owns_of_mem_violates h (by simp [openings])
      · exact owns_of_mem_violates h (by simp [openings])
  · obtain rfl := List.mem_singleton.1 h
    exact owns_of_mem (by simp [openings])

/-- The messages about an expression are those of the expression. -/
theorem owns_of_mem_expressionViolations {value : Value} {violation : Violation}
    (h : violation ∈ expressionViolations value) :
    RuledField.expression.owns violation.message = true := by
  unfold expressionViolations at h
  split at h
  · split at h
    · simp at h
    · next error _ =>
      obtain rfl := List.mem_singleton.1 h
      refine owns_iff.2 ⟨_, List.mem_cons_of_mem _ List.mem_cons_self, ?_⟩
      have hMessage : (Violation.badExpression error).message =
          "Invalid cron expression: " ++ error.message := rfl
      rw [hMessage, String.toList_append]
      exact List.prefix_append _ _
  · obtain rfl := List.mem_singleton.1 h
    exact owns_of_mem (by simp [openings])

/-- The message about a zone is that of the zone. -/
theorem owns_badTimezone (given : Value) :
    RuledField.timezone.owns (Violation.badTimezone given).message = true := by
  refine owns_iff.2 ⟨_, List.mem_cons_self, ?_⟩
  have hMessage : (Violation.badTimezone given).message = "Invalid timezone: " ++ given.plain := rfl
  rw [hMessage, String.toList_append]
  exact List.prefix_append _ _

/-- The only thing to be said about a zone is that it is none. -/
theorem eq_badTimezone_of_mem_violations {value : Value} {now : Moment} {violation : Violation}
    (h : violation ∈ RuledField.timezone.violations value now) : violation = .badTimezone value := by
  cases hZone : timezoneViolations value now with
  | error cause => simp [violations, hZone, Except.toOption] at h
  | ok listed =>
    simp only [violations, hZone, Except.toOption, Option.getD_some] at h
    obtain ⟨valid, -, hOwn⟩ := bind_eq_ok.1 hZone
    rw [← Except.ok.inj hOwn] at h
    exact (mem_violates_iff.1 h).2

/-- What the rules of a field say are messages of the field. -/
theorem owns_of_mem_violations {value : Value} {now : Moment} {violation : Violation}
    (h : violation ∈ field.violations value now) : field.owns violation.message = true := by
  cases field with
  | id | execute | status | exclusive | catchUp | runCount | lastError =>
    exact owns_of_mem_violates h List.mem_cons_self
  | createdAt | updatedAt | nextRun | lastRun => exact owns_of_mem_violates h List.mem_cons_self
  | maxRetries | retryDelay | timeout => exact owns_of_mem_boundViolations h rfl
  | name => exact owns_of_mem_nameViolations h
  | expression => exact owns_of_mem_expressionViolations h
  | timezone =>
    rw [eq_badTimezone_of_mem_violations h]
    exact owns_badTimezone value

/-- A field owns all messages that its rules lead to. -/
theorem owns_of_mem_violationsIn {task : Value} {now : Moment} {violation : Violation}
    (h : violation ∈ field.violationsIn task now) : field.owns violation.message = true := by
  unfold violationsIn at h
  split at h
  · simp at h
  · exact owns_of_mem_violations h

end RuledField

end Crontab
