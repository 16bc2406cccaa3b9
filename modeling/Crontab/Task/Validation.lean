import Crontab.Schedule.Upcoming
import Crontab.Task.Basic

/-!
# Validation of tasks

A task or its options may be given as a mapping or as a thing with attributes.  Every rule is checked
on its own, and the violations are listed field by field.  A zone is valid if its clocks can be asked
for the time, so that the validation takes place at a moment.

* `Violation` — what can be wrong, with its wording;
* `optionsViolations` — the violations of task options;
* `taskViolations` — the violations of a task, those of its options included;
* `Subject.validate` — the verdict on a task or its options.
-/

namespace Crontab

open Text Time

/-- The greatest number of characters of a name. -/
def nameLimit : Nat := 100

/-- The greatest number of retries. -/
def retryLimit : Int := 10

/-- The least and the greatest delay between retries, in milliseconds. -/
def retryDelayBounds : Int × Int := (100, 3600000)

/-- The least and the greatest timeout, in milliseconds. -/
def timeoutBounds : Int × Int := (1000, 86400000)

/-- A violated rule. -/
inductive Violation
  | missingId
  | missingName
  | nameNotText
  | nameTooLong
  | nameCharacters
  | notExecutable
  | unknownStatus
  | missingOptions
  | runCountNotNumber
  | notAMoment (label : String)
  | lastErrorNotError
  | missingExpression
  | badExpression (error : ParseError)
  | badTimezone (given : Value)
  | retriesNotNatural
  | tooManyRetries
  | retryDelayTooShort
  | retryDelayTooLong
  | timeoutTooShort
  | timeoutTooLong
  | exclusiveNotBool
  | catchUpNotBool

/-- The wording of a violation. -/
def Violation.message : Violation → String
  | .missingId => "Task ID is required"
  | .missingName => "Task name is required"
  | .nameNotText => "Task name must be a string"
  | .nameTooLong => "Task name must not exceed " ++ toString nameLimit ++ " characters"
  | .nameCharacters => "Task name must only contain letters, numbers, spaces, and hyphens"
  | .notExecutable => "Task must have a valid execute function"
  | .unknownStatus =>
    "Invalid Task status. Must be one of: " ++ ", ".intercalate (Status.all.map Status.name)
  | .missingOptions => "Task options are required"
  | .runCountNotNumber => "Metadata runCount must be a number"
  | .notAMoment label => "Metadata " ++ label ++ " must be a datetime object"
  | .lastErrorNotError => "Metadata lastError must be an exception object"
  | .missingExpression => "Cron expression is required"
  | .badExpression error => "Invalid cron expression: " ++ error.message
  | .badTimezone given => "Invalid timezone: " ++ given.plain
  | .retriesNotNatural => "maxRetries must be a non-negative integer"
  | .tooManyRetries => "maxRetries cannot exceed " ++ toString retryLimit
  | .retryDelayTooShort =>
    "retryDelay must be an integer >= " ++ toString retryDelayBounds.1 ++ "ms"
  | .retryDelayTooLong => "retryDelay cannot exceed " ++ toString retryDelayBounds.2 ++ "ms"
  | .timeoutTooShort => "timeout must be an integer >= " ++ toString timeoutBounds.1 ++ "ms"
  | .timeoutTooLong => "timeout cannot exceed " ++ toString timeoutBounds.2 ++ "ms"
  | .exclusiveNotBool => "exclusive must be a boolean"
  | .catchUpNotBool => "catchUp must be a boolean"

/-- A violation under a condition. -/
def violates (condition : Bool) (violation : Violation) : List Violation :=
  if condition then [violation] else []

/-! ## Options -/

/-- The violations of an expression. -/
def expressionViolations (expression : Value) : List Violation :=
  if expression.isTruthy then
    match Schedule.ofValue expression with
    | .ok _ => []
    | .error error => [.badExpression error]
  else [.missingExpression]

/-- The violations of a time zone, whose clocks are asked for the time. -/
def timezoneViolations (timezone : Value) (now : Moment) :
    Except OutOfCalendar (List Violation) := do
  let valid ← isValidTimezone timezone now
  pure (violates (timezone.isTruthy && !valid) (.badTimezone timezone))

/-- The violations of a number that has to be an integer between two bounds, if it is given. -/
def boundViolations (value : Value) (least greatest : Int) (below above : Violation) :
    List Violation :=
  if value.isNull then []
  else violates (!value.isIntegerFrom least) below ++ violates (value.exceeds greatest) above

/-- The violation of a truth value, if it is given. -/
def boolViolations (value : Value) (violation : Violation) : List Violation :=
  violates (!value.isNull && !value.isBool) violation

/-- The violations of task options. -/
def optionsViolations (options : Value) (now : Moment) : Except OutOfCalendar (List Violation) := do
  let timezone ← timezoneViolations (options.part "timezone") now
  pure
   (expressionViolations (options.part "expression") ++ timezone ++
    boundViolations (options.part "max_retries") 0 retryLimit .retriesNotNatural .tooManyRetries ++
    boundViolations (options.part "retry_delay") retryDelayBounds.1 retryDelayBounds.2
      .retryDelayTooShort .retryDelayTooLong ++
    boundViolations (options.part "timeout") timeoutBounds.1 timeoutBounds.2
      .timeoutTooShort .timeoutTooLong ++
    boolViolations (options.part "exclusive") .exclusiveNotBool ++
    boolViolations (options.part "catch_up") .catchUpNotBool)

/-! ## Tasks -/

/-- Whether a character may stand in a name: an ASCII letter or digit, a space or a hyphen. -/
def isNameChar (c : Char) : Bool :=
  c.isAlphanum || c = ' ' || c = '-'

/-- The violations of a name. -/
def nameViolations (name : Value) : List Violation :=
  if name.isTruthy then
    match name.text? with
    | none => [.nameNotText]
    | some text =>
      violates (nameLimit < text.toList.length) .nameTooLong ++
      violates (!text.toList.all isNameChar) .nameCharacters
  else [.missingName]

/-- The violation of a status that is none of the five. -/
def statusViolations (status : Value) : List Violation :=
  violates (status.text?.bind Status.ofName?).isNone .unknownStatus

/-- The violation of a time stamp, if it is given. -/
def momentViolations (value : Value) (label : String) : List Violation :=
  violates (!value.isNull && !value.isMoment) (.notAMoment label)

/-- The violations of metadata, if there are any. -/
def metadataViolations (metadata : Value) : List Violation :=
  if metadata.isNull then []
  else
    violates (!(metadata.part "run_count").isNumber) .runCountNotNumber ++
    momentViolations (metadata.part "created_at") "createdAt" ++
    momentViolations (metadata.part "updated_at") "updatedAt" ++
    momentViolations (metadata.part "next_run") "nextRun" ++
    momentViolations (metadata.part "last_run") "lastRun" ++
    violates (!(metadata.part "last_error").isNull && !(metadata.part "last_error").isFailure)
      .lastErrorNotError

/-- The violations of the options of a task, which have to be there. -/
def requiredOptionsViolations (options : Value) (now : Moment) :
    Except OutOfCalendar (List Violation) :=
  if options.isNull then .ok [.missingOptions] else optionsViolations options now

/-- The violations of a task. -/
def taskViolations (task : Value) (now : Moment) : Except OutOfCalendar (List Violation) := do
  let options ← requiredOptionsViolations (task.part "options") now
  pure
   (violates (!(task.part "id").isTruthy) .missingId ++
    nameViolations (task.part "name") ++
    violates (!(task.part "execute").isCallable) .notExecutable ++
    statusViolations (task.part "status") ++
    options ++
    metadataViolations (task.part "metadata"))

/-! ## Verdicts -/

/-- The verdict of a validation: valid if there is no error. -/
structure Verdict where
  errors : List String
deriving DecidableEq, Repr

/-- Whether nothing is wrong. -/
def Verdict.valid (verdict : Verdict) : Bool :=
  verdict.errors.isEmpty

/-- What can be validated. -/
inductive Subject
  | task
  | options
deriving DecidableEq, Repr

/-- The wording of a missing subject. -/
def Subject.missingMessage : Subject → String
  | .task => "validate_task() requires a task, got None"
  | .options => "validate_task_options() requires options, got None"

/-- Why there is no verdict. -/
inductive ValidationError
  /-- There is nothing to validate. -/
  | missing (subject : Subject)
  | outOfCalendar
deriving DecidableEq, Repr

/-- The violations of a subject. -/
def Subject.violations (subject : Subject) (given : Value) (now : Moment) :
    Except OutOfCalendar (List Violation) :=
  match subject with
  | .task => taskViolations given now
  | .options => optionsViolations given now

/-- Validates a task or its options at a moment; there is no verdict on `null`. -/
def Subject.validate (subject : Subject) (given : Value) (now : Moment) :
    Except ValidationError Verdict :=
  if given.isNull then .error (.missing subject)
  else
    match subject.violations given now with
    | .ok violations => .ok ⟨violations.map Violation.message⟩
    | .error _ => .error .outOfCalendar

end Crontab
