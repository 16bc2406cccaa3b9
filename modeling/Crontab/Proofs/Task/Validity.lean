import Crontab.Proofs.Task.Records
import Crontab.Proofs.Time.FirstPass
import Crontab.Task.Validation

/-!
# Valid options and tasks

What passes the validation violates no rule, and every rule that is not violated says something about
a part.  The rule of the zone asks its clocks for the time, so that there may be no verdict; where there
is one, it is the same at all times.

* `Subject.violations_of_valid` — a verdict is valid if no rule is violated;
* `optionsViolations_eq_ok_nil_iff` — options that violate no rule, part by part;
* `Task.IsSound` — tasks with which nothing is wrong, but possibly what they execute;
* `Task.isSound_of_valid`, `Task.IsSound.validate` — such tasks and the validation;
* `Task.IsSound.later` — whether a task is one does not depend on the time.
-/

namespace Crontab

open Time

/-! ## Verdicts and violations -/

section validation

variable {options expression zone : Value} {now : Moment}

/-- A rule is not violated exactly when its condition does not hold. -/
@[simp] theorem violates_eq_nil_iff {condition : Bool} {violation : Violation} :
    violates condition violation = [] ↔ condition = false := by
  cases condition <;> simp [violates]

/-- A verdict is valid if no rule is violated. -/
theorem Subject.violations_of_valid {subject : Subject} {given : Value} {verdict : Verdict}
    (h : subject.validate given now = .ok verdict) (hValid : verdict.valid = true) :
    subject.violations given now = .ok [] := by
  unfold Subject.validate at h
  split at h
  · simp at h
  · split at h
    · next violations hViolations =>
      obtain rfl := Except.ok.inj h
      simp only [Verdict.valid, List.isEmpty_iff, List.map_eq_nil_iff] at hValid
      subst hValid
      exact hViolations
    · simp at h

/-- An expression without violations is a schedule. -/
theorem exists_schedule (h : expressionViolations expression = []) :
    ∃ schedule, Schedule.ofValue expression = .ok schedule := by
  unfold expressionViolations at h
  split at h
  · split at h
    · next schedule hSchedule => exact ⟨schedule, hSchedule⟩
    · simp at h
  · simp at h

/-! ### Zones -/

/-- Valid zones are those of which the name is known, as far as the calendar goes. -/
theorem isValidTimezone_eq_ok_true_iff :
    isValidTimezone zone now = .ok true ↔
      zone.isTruthy = true ∧ ∃ name known moment, zoneName? zone = some name ∧
        zoneOf name = .ok known ∧ now.inZone? known = .ok moment := by
  unfold isValidTimezone zoneOf
  by_cases hGiven : zone.isTruthy = true
  · simp only [if_pos hGiven]
    cases hName : zoneName? zone with
    | none => simp [hGiven]
    | some name =>
      cases hKnown : name.text?.bind Zone.ofKey? with
      | none => simp [hGiven, hKnown]
      | some known => simp [hGiven, hKnown, map_eq_ok]
  · simp [hGiven]

/-- A zone that is known at one time is not invalid at another one. -/
theorem isValidTimezone_later {later : Moment} {valid : Bool}
    (h : isValidTimezone zone now = .ok true) (hLater : isValidTimezone zone later = .ok valid) :
    valid = true := by
  obtain ⟨hGiven, name, known, _, hName, hKnown, -⟩ := isValidTimezone_eq_ok_true_iff.1 h
  unfold isValidTimezone at hLater
  unfold zoneOf at hKnown
  rw [if_pos hGiven, hName, Option.bind_some] at hLater
  split at hLater
  · obtain ⟨_, -, hValid⟩ := map_eq_ok.1 hLater
    exact hValid.symm
  · next hUnknown =>
    rw [hUnknown] at hKnown
    cases hKnown

/-- There is nothing wrong with a zone that is not given, or valid. -/
theorem timezoneViolations_eq_ok_nil_iff :
    timezoneViolations zone now = .ok [] ↔
      ∃ valid, isValidTimezone zone now = .ok valid ∧ (zone.isTruthy = true → valid = true) := by
  simp only [timezoneViolations, bind_eq_ok]
  refine exists_congr fun valid => and_congr_right fun _ => ?_
  refine Iff.trans ⟨Except.ok.inj, congrArg Except.ok⟩ ?_
  cases zone.isTruthy <;> simp

/-- A zone that is given and not complained about is valid. -/
theorem isValidTimezone_of_timezoneViolations (h : timezoneViolations zone now = .ok [])
    (hGiven : zone.isTruthy = true) : isValidTimezone zone now = .ok true := by
  obtain ⟨valid, hValid, hTrue⟩ := timezoneViolations_eq_ok_nil_iff.1 h
  rwa [hTrue hGiven] at hValid

/-- With what was no violation of a zone at one time there is nothing wrong at another one. -/
theorem timezoneViolations_later {later : Moment} {violations : List Violation}
    (h : timezoneViolations zone now = .ok [])
    (hLater : timezoneViolations zone later = .ok violations) : violations = [] := by
  obtain ⟨valid, hValid, hViolations⟩ := bind_eq_ok.1 hLater
  obtain rfl := Except.ok.inj hViolations
  rw [violates_eq_nil_iff]
  by_cases hGiven : zone.isTruthy = true
  · rw [isValidTimezone_later (isValidTimezone_of_timezoneViolations h hGiven) hValid, hGiven]
    rfl
  · rw [Bool.eq_false_iff.2 hGiven]
    rfl

/-- Clocks set to universal time show what a moment of universal time shows. -/
theorem utc?_universal (wall : Wall) : (Moment.universal wall).utc? = .ok wall := by
  have hOffset : -((Moment.universal wall).offset?.getD 0) = 0 := rfl
  have hSame : (Moment.universal wall).wall.shift? 0 = some wall :=
    Wall.shift?_eq_some_iff.2 (Int.add_zero _).symm
  rw [Moment.utc?, hOffset, hSame]

/-- The clocks of universal time show it at all times. -/
theorem inZone?_universal (wall : Wall) :
    (Moment.universal wall).inZone? Atlas.universal = .ok ⟨wall, .zoned Atlas.universal, .first⟩ := by
  have hWall : Atlas.universal.wallAt? wall = some wall :=
    Wall.shift?_eq_some_iff.2 (Int.add_zero _).symm
  have hIsIn : (Moment.universal wall).isIn Atlas.universal = false := rfl
  rw [Moment.inZone?, hIsIn, utc?_universal, if_neg Bool.false_ne_true, ok_bind, Moment.ofUtcZone?,
    hWall]
  rfl

/-- There is nothing wrong with universal time at any time. -/
theorem timezoneViolations_universal (wall : Wall) :
    timezoneViolations (.text "UTC") (.universal wall) = .ok [] := by
  refine timezoneViolations_eq_ok_nil_iff.2 ⟨true, ?_, fun _ => rfl⟩
  exact isValidTimezone_eq_ok_true_iff.2
    ⟨by decide, _, Atlas.universal, _, rfl, rfl, inZone?_universal wall⟩

/-! ### Options -/

/-- The violations of options apart from their expression and their zone. -/
def otherViolations (options : Value) : List Violation :=
  boundViolations (options.part "max_retries") 0 retryLimit .retriesNotNatural .tooManyRetries ++
    (boundViolations (options.part "retry_delay") retryDelayBounds.1 retryDelayBounds.2
        .retryDelayTooShort .retryDelayTooLong ++
      (boundViolations (options.part "timeout") timeoutBounds.1 timeoutBounds.2
          .timeoutTooShort .timeoutTooLong ++
        (boolViolations (options.part "exclusive") .exclusiveNotBool ++
          boolViolations (options.part "catch_up") .catchUpNotBool)))

/-- Options are complained about in the order of the expression, the zone and the others. -/
theorem optionsViolations_eq (options : Value) (now : Moment) :
    optionsViolations options now =
      (timezoneViolations (options.part "timezone") now).map fun timezone =>
        expressionViolations (options.part "expression") ++ timezone ++ otherViolations options := by
  unfold optionsViolations otherViolations
  cases timezoneViolations (options.part "timezone") now with
  | error cause => rfl
  | ok timezone =>
    rw [ok_bind]
    simp only [List.append_assoc]
    rfl

/-- Options have no violations if their expression, their zone and the others have none. -/
theorem optionsViolations_eq_ok_nil_iff :
    optionsViolations options now = .ok [] ↔
      expressionViolations (options.part "expression") = [] ∧
        timezoneViolations (options.part "timezone") now = .ok [] ∧
        otherViolations options = [] := by
  rw [optionsViolations_eq, map_eq_ok]
  constructor
  · rintro ⟨timezone, hTimezone, hNone⟩
    simp only [List.append_eq_nil_iff] at hNone
    rw [hNone.1.2] at hTimezone
    exact ⟨hNone.1.1, hTimezone, hNone.2⟩
  · rintro ⟨hExpression, hTimezone, hOthers⟩
    exact ⟨[], hTimezone, by rw [hExpression, hOthers]; rfl⟩

/-- Options that are not wrong at one time are not wrong at another one. -/
theorem optionsViolations_later {later : Moment} {violations : List Violation}
    (h : optionsViolations options now = .ok [])
    (hLater : optionsViolations options later = .ok violations) : violations = [] := by
  obtain ⟨hExpression, hTimezone, hOthers⟩ := optionsViolations_eq_ok_nil_iff.1 h
  rw [optionsViolations_eq, map_eq_ok] at hLater
  obtain ⟨timezone, hOther, rfl⟩ := hLater
  rw [hExpression, hOthers, timezoneViolations_later hTimezone hOther]
  rfl

end validation

/-! ## Metadata -/

/-- There is nothing wrong with the metadata. -/
structure TaskMetadata.IsSound (metadata : TaskMetadata) : Prop where
  runCount : metadata.runCount.isNumber = true
  moments : ∀ value ∈ [metadata.createdAt, metadata.updatedAt, metadata.nextRun, metadata.lastRun],
    value.isNull = true ∨ value.isMoment = true
  lastError : metadata.lastError.isNull = true ∨ metadata.lastError.isFailure = true

namespace TaskMetadata

variable {metadata : TaskMetadata}

/-- Nothing is wrong with a moment or nothing in its place. -/
theorem momentViolations_eq_nil_iff {value : Value} {label : String} :
    momentViolations value label = [] ↔ value.isNull = true ∨ value.isMoment = true := by
  simp only [momentViolations, violates_eq_nil_iff]
  cases value.isNull <;> cases value.isMoment <;> simp

/-- Nothing is wrong with metadata exactly when they are sound. -/
theorem metadataViolations_eq_nil_iff :
    metadataViolations (Slot.filled metadata).metadataValue = [] ↔ metadata.IsSound := by
  have hParts : metadataViolations (Slot.filled metadata).metadataValue =
      violates (!metadata.runCount.isNumber) .runCountNotNumber ++
        momentViolations metadata.createdAt "createdAt" ++
        momentViolations metadata.updatedAt "updatedAt" ++
        momentViolations metadata.nextRun "nextRun" ++
        momentViolations metadata.lastRun "lastRun" ++
        violates (!metadata.lastError.isNull && !metadata.lastError.isFailure)
          .lastErrorNotError := rfl
  simp only [hParts, List.append_eq_nil_iff, violates_eq_nil_iff, momentViolations_eq_nil_iff]
  constructor
  · rintro ⟨⟨⟨⟨⟨hCount, hCreated⟩, hUpdated⟩, hNext⟩, hLast⟩, hError⟩
    refine ⟨by simpa using hCount, by simp [hCreated, hUpdated, hNext, hLast], ?_⟩
    cases hNull : metadata.lastError.isNull with
    | true => exact .inl rfl
    | false => exact .inr (by simpa [hNull] using hError)
  · intro h
    have hMoments := h.moments
    simp only [List.forall_mem_cons] at hMoments
    obtain ⟨hCreated, hUpdated, hNext, hLast, -⟩ := hMoments
    refine ⟨⟨⟨⟨⟨by simp [h.runCount], hCreated⟩, hUpdated⟩, hNext⟩, hLast⟩, ?_⟩
    rcases h.lastError with hError | hError <;> simp [hError]

theorem isSound_default : TaskMetadata.IsSound {} where
  runCount := rfl
  moments := by simp [Value.isNull]
  lastError := .inl rfl

/-- What is recorded in the place of a moment is a moment or nothing. -/
theorem isNull_or_isMoment_awareMoment (value : Value) :
    (awareMoment value).isNull = true ∨ (awareMoment value).isMoment = true := by
  cases value <;> simp [awareMoment, Value.isNull, Value.isMoment]

/-- What is left in the place of a moment is a moment or nothing. -/
theorem isNull_or_isMoment_restoredMoment (value : Value) :
    (restoredMoment value).isNull = true ∨ (restoredMoment value).isMoment = true := by
  cases value <;> simp [restoredMoment, Value.isNull, Value.isMoment]

/-- Nor is there with the metadata of the record. -/
theorem IsSound.created (h : metadata.IsSound) (now : Moment) : (metadata.created now).IsSound where
  runCount := by
    unfold TaskMetadata.created
    dsimp only
    split
    · rfl
    · exact h.runCount
  moments := by
    simp only [List.forall_mem_cons]
    exact ⟨.inr rfl, .inr rfl, isNull_or_isMoment_awareMoment _, isNull_or_isMoment_awareMoment _,
      List.forall_mem_nil _⟩
  lastError := h.lastError

/-- Nor with what is read back of them. -/
theorem IsSound.restored (h : metadata.IsSound) : metadata.restored.IsSound where
  runCount := h.runCount
  moments := by
    simp only [List.forall_mem_cons]
    exact ⟨isNull_or_isMoment_restoredMoment _, isNull_or_isMoment_restoredMoment _,
      isNull_or_isMoment_restoredMoment _, isNull_or_isMoment_restoredMoment _,
      List.forall_mem_nil _⟩
  lastError := by
    simp only [TaskMetadata.restored, restoredFailure]
    split
    · exact .inl rfl
    · exact .inr rfl

end TaskMetadata

/-! ## Tasks -/

/-- There is nothing wrong with the task, but possibly with what it executes. -/
structure Task.IsSound (task : Task) (now : Moment) : Prop where
  id : task.id.isTruthy = true
  name : nameViolations task.name = []
  status : statusViolations task.status = []
  options : requiredOptionsViolations task.options.optionsValue now = .ok []
  metadata : metadataViolations task.metadata.metadataValue = []

section tasks

variable {task record : Task} {now : Moment}

/-- A task is complained about part by part. -/
theorem Task.taskViolations_eq (task : Task) (now : Moment) :
    taskViolations task.toValue now =
      (requiredOptionsViolations task.options.optionsValue now).map fun options =>
        violates (!task.id.isTruthy) .missingId ++ nameViolations task.name ++
          violates (!task.execute.isCallable) .notExecutable ++ statusViolations task.status ++
          options ++ metadataViolations task.metadata.metadataValue :=
  rfl

/-- A task without violations is sound, and there is something to execute. -/
theorem Task.isSound_of_violations (h : taskViolations task.toValue now = .ok []) :
    task.IsSound now ∧ task.execute.isCallable = true := by
  rw [task.taskViolations_eq, map_eq_ok] at h
  obtain ⟨options, hOptions, hNone⟩ := h
  simp only [List.append_eq_nil_iff, violates_eq_nil_iff, Bool.not_eq_false'] at hNone
  obtain ⟨⟨⟨⟨⟨hId, hName⟩, hExecute⟩, hStatus⟩, rfl⟩, hMetadata⟩ := hNone
  exact ⟨⟨hId, hName, hStatus, hOptions, hMetadata⟩, hExecute⟩

/-- A valid task is sound and can be executed. -/
theorem Task.isSound_of_valid {verdict : Verdict}
    (h : Subject.task.validate task.toValue now = .ok verdict) (hValid : verdict.valid = true) :
    task.IsSound now ∧ task.execute.isCallable = true :=
  Task.isSound_of_violations (Subject.violations_of_valid h hValid)

/-- The verdict on a sound task: nothing is wrong, but possibly what it executes. -/
theorem Task.IsSound.validate (h : task.IsSound now) :
    Subject.task.validate task.toValue now =
      .ok ⟨if task.execute.isCallable then [] else [Violation.notExecutable.message]⟩ := by
  have hViolations : taskViolations task.toValue now =
      .ok (violates (!task.execute.isCallable) .notExecutable) := by
    rw [task.taskViolations_eq, h.options, h.name, h.status, h.metadata, h.id]
    simp [Except.map, violates]
  have hGiven : task.toValue.isNull = false := rfl
  rw [Subject.validate, hGiven, if_neg Bool.false_ne_true]
  simp only [Subject.violations, hViolations]
  cases task.execute.isCallable <;> rfl

/-- A task that is sound at one time is sound at every other one at which there is a verdict. -/
theorem Task.IsSound.later (h : task.IsSound now) {other : Moment} {verdict : Verdict}
    (hLater : Subject.task.validate task.toValue other = .ok verdict) : task.IsSound other := by
  have hGiven : task.toValue.isNull = false := rfl
  rw [Subject.validate, hGiven, if_neg Bool.false_ne_true] at hLater
  simp only [Subject.violations, task.taskViolations_eq] at hLater
  refine ⟨h.id, h.name, h.status, ?_, h.metadata⟩
  have hOptions := h.options
  unfold requiredOptionsViolations at hOptions hLater ⊢
  split
  · next hNull =>
    rw [if_pos hNull] at hOptions
    exact hOptions
  · next hFilled =>
    rw [if_neg hFilled] at hOptions hLater
    cases hViolations : optionsViolations task.options.optionsValue other with
    | error cause =>
      rw [hViolations] at hLater
      cases hLater
    | ok violations => rw [optionsViolations_later hOptions hViolations]

end tasks

end Crontab
