import Crontab.Proofs.Task.FieldRules

/-!
# No check hides another

What is said about one field of a task does not depend on the others.  Of two tasks that differ in one
field only, the verdicts are the same up to the messages of the rules of that field, and the errors of
the options stand in a row among those of the task.

* `DifferAt` — two values that are the same but for what lies at the end of a path;
* `DifferAt.violationsIn_eq` — other fields do not notice the difference;
* `timezoneViolations_unique`, `optionsViolations_unique` — nor does the time matter where there is a
  verdict;
* `Verdict.ListsAll` — a verdict that leaves nothing out;
* `validate_independent` — the verdicts on two tasks that differ in one field.
-/

namespace Crontab

open Time

/-! ## Values that differ in one place -/

/-- Two values differ at most at the end of a path of names: the parts on the way are there or missing
in both, and all other parts are the same. -/
def DifferAt : List String → Value → Value → Prop
  | [], _, _ => True
  | name :: path, value, other =>
    value.isNull = other.isNull ∧
      (∀ label, label ≠ name → value.part label = other.part label) ∧
      DifferAt path (value.part name) (other.part name)

namespace DifferAt

variable {value other : Value} {path : List String}

/-- What is not beyond the end of the path is there or missing in both. -/
theorem isNull_partAt (h : DifferAt path value other) {place : List String}
    (hPlace : ¬ path <+: place) :
    (value.partAt place).isNull = (other.partAt place).isNull := by
  induction path generalizing value other place with
  | nil => exact absurd List.nil_prefix hPlace
  | cons name path ih =>
    obtain ⟨hNull, hOthers, hInner⟩ := h
    cases place with
    | nil => exact hNull
    | cons label place =>
      by_cases hLabel : label = name
      · subst hLabel
        exact ih hInner fun hPrefix => hPlace (List.cons_prefix_cons.2 ⟨rfl, hPrefix⟩)
      · exact congrArg (fun part : Value => (part.partAt place).isNull) (hOthers label hLabel)

/-- What is not on the path is the same. -/
theorem partAt_eq (h : DifferAt path value other) {place : List String} (hPlace : ¬ path <+: place)
    (hPath : ¬ place <+: path) : value.partAt place = other.partAt place := by
  induction path generalizing value other place with
  | nil => exact absurd List.nil_prefix hPlace
  | cons name path ih =>
    obtain ⟨-, hOthers, hInner⟩ := h
    cases place with
    | nil => exact absurd List.nil_prefix hPath
    | cons label place =>
      by_cases hLabel : label = name
      · subst hLabel
        exact ih hInner (fun hPrefix => hPlace (List.cons_prefix_cons.2 ⟨rfl, hPrefix⟩))
          fun hPrefix => hPath (List.cons_prefix_cons.2 ⟨rfl, hPrefix⟩)
      · exact congrArg (fun part : Value => part.partAt place) (hOthers label hLabel)

end DifferAt

/-! ## Verdicts at different times -/

section times

variable {zone options task : Value} {now later : Moment} {listed others : List Violation}

/-- What is wrong with a zone is the same whenever it can be told. -/
theorem timezoneViolations_unique (h : timezoneViolations zone now = .ok listed)
    (hLater : timezoneViolations zone later = .ok others) : listed = others := by
  obtain ⟨valid, hValid, hListed⟩ := bind_eq_ok.1 h
  obtain ⟨otherValid, hOtherValid, hOthers⟩ := bind_eq_ok.1 hLater
  have hSame : valid = otherValid := by
    cases valid with
    | true => exact (isValidTimezone_later hValid hOtherValid).symm
    | false =>
      cases otherValid with
      | false => rfl
      | true => exact isValidTimezone_later hOtherValid hValid
  rw [← Except.ok.inj hListed, ← Except.ok.inj hOthers, hSame]

/-- What is wrong with options does not depend on the time of the validation. -/
theorem optionsViolations_unique (h : optionsViolations options now = .ok listed)
    (hLater : optionsViolations options later = .ok others) : listed = others := by
  obtain ⟨own, hOwn, rfl⟩ := map_eq_ok.1 (optionsViolations_eq options now ▸ h)
  obtain ⟨other, hOther, rfl⟩ := map_eq_ok.1 (optionsViolations_eq options later ▸ hLater)
  rw [timezoneViolations_unique hOwn hOther]

/-- If there is a verdict then something can be said about the zone. -/
theorem exists_timezoneViolations (h : taskViolations task now = .ok listed)
    (hOptions : (task.part "options").isNull = false) :
    ∃ own, timezoneViolations (RuledField.timezone.valueIn task) now = .ok own := by
  obtain ⟨own, hOwn, -⟩ := bind_eq_ok.1 h
  rw [requiredOptionsViolations, hOptions, if_neg Bool.false_ne_true] at hOwn
  obtain ⟨zone, hZone, -⟩ := bind_eq_ok.1 hOwn
  exact ⟨zone, hZone⟩

end times

/-! ## Fields that do not notice -/

/-- No field lies on the way to another one. -/
theorem RuledField.paths_apart : ∀ field ∈ RuledField.all, ∀ other ∈ RuledField.all,
    ¬ field.path <+: other.path.dropLast ∧
      (other ≠ field → ¬ field.path <+: other.path ∧ ¬ other.path <+: field.path) := by
  decide +kernel

section independence

variable {field other : RuledField} {task changed : Value} {now later : Moment}
  {listed others : List Violation}

/-- Only the rule of the zone asks for the time. -/
theorem RuledField.violations_later (hField : field ≠ .timezone) (value : Value) :
    field.violations value now = field.violations value later := by
  cases field with
  | timezone => exact absurd rfl hField
  | _ => rfl

/-- The rules of a field do not notice a difference in another one. -/
theorem DifferAt.violationsIn_eq (hDiffer : DifferAt field.path task changed) (hNe : other ≠ field)
    (h : taskViolations task now = .ok listed) (hChanged : taskViolations changed later = .ok others) :
    other.violationsIn task now = other.violationsIn changed later := by
  obtain ⟨hHolder, hApart⟩ := RuledField.paths_apart field field.mem_all other other.mem_all
  obtain ⟨hBeyond, hBefore⟩ := hApart hNe
  have hNull : (other.holderIn task).isNull = (other.holderIn changed).isNull :=
    hDiffer.isNull_partAt hHolder
  have hValue : other.valueIn task = other.valueIn changed := hDiffer.partAt_eq hBeyond hBefore
  unfold RuledField.violationsIn
  rw [← hNull]
  split
  · rfl
  · next hGiven =>
    by_cases hZone : other = .timezone
    · subst hZone
      have hOptions : (task.part "options").isNull = false := Bool.eq_false_iff.2 hGiven
      have hOtherOptions : (changed.part "options").isNull = false := hNull.symm.trans hOptions
      obtain ⟨own, hOwn⟩ := exists_timezoneViolations h hOptions
      obtain ⟨same, hSame⟩ := exists_timezoneViolations hChanged hOtherOptions
      rw [← hValue] at hSame
      simp only [RuledField.violations, ← hValue, hOwn, hSame, Except.toOption, Option.getD_some]
      exact timezoneViolations_unique hOwn hSame
    · rw [hValue, RuledField.violations_later hZone]

end independence

/-! ## Verdicts field by field -/

section verdicts

variable {field : RuledField} {task : Value} {now : Moment} {verdict : Verdict}

/-- What the rules of a field have to say about a task, in words. -/
def RuledField.messagesIn (field : RuledField) (task : Value) (now : Moment) : List String :=
  (field.violationsIn task now).map Violation.message

/-- A field owns what it has to say about a task. -/
theorem RuledField.owns_of_mem_messagesIn {message : String}
    (h : message ∈ field.messagesIn task now) : field.owns message = true := by
  obtain ⟨violation, hViolation, rfl⟩ := List.mem_map.1 h
  exact owns_of_mem_violationsIn hViolation

/-- The errors of a verdict are the messages of the fields, one after the other. -/
theorem errors_eq_flatMap (h : Subject.task.validate task now = .ok verdict) :
    verdict.errors = (RuledField.ofTask.flatMap fun own => own.messagesIn task now) ++
      ((violates (task.part "options").isNull .missingOptions).map Violation.message ++
        (RuledField.ofOptions ++ RuledField.ofMetadata).flatMap fun own =>
          own.messagesIn task now) := by
  obtain ⟨hGiven, listed, hListed, hErrors⟩ := Subject.validate_eq_ok_iff.1 h
  rw [hErrors, taskViolations_eq_flatMap hGiven hListed]
  simp only [List.map_append, List.map_flatMap]
  rfl

/-- Of some lists in a row of which all but one are empty that one is left. -/
theorem flatMap_eq_of_forall_ne {α β : Type} {as : List α} {f : α → List β} {a : α}
    (hNodup : as.Nodup) (hMem : a ∈ as) (hOthers : ∀ other ∈ as, other ≠ a → f other = []) :
    as.flatMap f = f a := by
  obtain ⟨front, back, rfl⟩ := List.append_of_mem hMem
  have hApart := List.nodup_append.1 hNodup
  have hFront : front.flatMap f = [] := List.flatMap_eq_nil_iff.2 fun other hOther =>
    hOthers other (List.mem_append_left _ hOther) (hApart.2.2 other hOther a List.mem_cons_self)
  have hBack : back.flatMap f = [] := List.flatMap_eq_nil_iff.2 fun other hOther =>
    hOthers other (List.mem_append_right _ (List.mem_cons_of_mem _ hOther))
      fun hSame => (List.nodup_cons.1 hApart.2.1).1 (hSame ▸ hOther)
  rw [List.flatMap_append, List.flatMap_cons, hFront, hBack, List.nil_append, List.append_nil]

/-- The messages of a verdict that belong to a field are those of its rules about its value. -/
theorem filter_owns_errors (h : Subject.task.validate task now = .ok verdict) :
    verdict.errors.filter field.owns = field.messagesIn task now := by
  have hMissing : ((violates (task.part "options").isNull .missingOptions).map
      Violation.message).filter field.owns = [] := by
    rw [List.filter_eq_nil_iff]
    intro message hMessage
    obtain ⟨violation, hViolation, rfl⟩ := List.mem_map.1 hMessage
    obtain ⟨-, rfl⟩ := RuledField.mem_violates_iff.1 hViolation
    rw [field.not_owns_missingOptions]
    exact Bool.false_ne_true
  -- no message belongs to two fields
  have hOthers : ∀ own ∈ RuledField.all, own ≠ field →
      (own.messagesIn task now).filter field.owns = [] := by
    intro own _ hNe
    rw [List.filter_eq_nil_iff]
    exact fun message hMessage hOwned =>
      hNe (RuledField.owns_unique (RuledField.owns_of_mem_messagesIn hMessage) hOwned)
  rw [errors_eq_flatMap h, List.filter_append, List.filter_append, hMissing, List.nil_append,
    ← List.filter_append, ← List.flatMap_append, List.filter_flatMap]
  refine (flatMap_eq_of_forall_ne RuledField.nodup_all field.mem_all hOthers).trans ?_
  exact List.filter_eq_self.2 fun _ => RuledField.owns_of_mem_messagesIn

/-- A verdict leaves nothing out: neither what a field has to say, nor any of what the validation of
the options alone has to say, which stands in a row. -/
structure Verdict.ListsAll (verdict : Verdict) (field : RuledField) (task : Value) (now : Moment) :
    Prop where
  own : verdict.errors.filter field.owns = field.messagesIn task now
  options_validated : (task.part "options").isNull = false →
    ∃ own, Subject.options.validate (task.part "options") now = .ok own
  options_infix : ∀ moment own, Subject.options.validate (task.part "options") moment = .ok own →
    own.errors <:+: verdict.errors

/-- A verdict lists all that any field has to say. -/
theorem Verdict.listsAll (field : RuledField) (h : Subject.task.validate task now = .ok verdict) :
    verdict.ListsAll field task now := by
  obtain ⟨-, listed, hListed, hErrors⟩ := Subject.validate_eq_ok_iff.1 h
  obtain ⟨options, hOptions, hParts⟩ := bind_eq_ok.1 hListed
  rw [requiredOptionsViolations] at hOptions
  refine ⟨filter_owns_errors h, fun hGiven => ?_, fun moment own hOwn => ?_⟩
  · rw [hGiven, if_neg Bool.false_ne_true] at hOptions
    exact ⟨⟨_⟩, Subject.validate_eq_ok_iff.2 ⟨hGiven, options, hOptions, rfl⟩⟩
  · obtain ⟨hGiven, others, hOthers, hOwnErrors⟩ := Subject.validate_eq_ok_iff.1 hOwn
    rw [hGiven, if_neg Bool.false_ne_true] at hOptions
    rw [hErrors, hOwnErrors, optionsViolations_unique hOthers hOptions, ← Except.ok.inj hParts]
    exact List.IsInfix.map _ ⟨_, _, rfl⟩

end verdicts

/-- **No check hides another.** The verdicts on two tasks that differ in one field only have the same
errors in the same order, but for those of the rules of that field.  In both verdicts these are what the
rules say about the value of the field, and the errors that the validation of the options alone gives
stand in a row.  The two tasks may be validated at different times. -/
theorem validate_independent {field : RuledField} {task changed : Value} {now later : Moment}
    {verdict changedVerdict : Verdict} (hDiffer : DifferAt field.path task changed)
    (h : Subject.task.validate task now = .ok verdict)
    (hChanged : Subject.task.validate changed later = .ok changedVerdict) :
    verdict.errors.filter (!field.owns ·) = changedVerdict.errors.filter (!field.owns ·) ∧
      verdict.ListsAll field task now ∧ changedVerdict.ListsAll field changed later := by
  refine ⟨?_, Verdict.listsAll field h, Verdict.listsAll field hChanged⟩
  obtain ⟨-, listed, hListed, -⟩ := Subject.validate_eq_ok_iff.1 h
  obtain ⟨-, others, hOthers, -⟩ := Subject.validate_eq_ok_iff.1 hChanged
  have hOptions : (task.part "options").isNull = (changed.part "options").isNull := by
    have hPlace : ∀ field ∈ RuledField.all, ¬ field.path <+: ["options"] := by decide +kernel
    exact hDiffer.isNull_partAt (hPlace field field.mem_all)
  have hField : ∀ own : RuledField, (own.messagesIn task now).filter (!field.owns ·) =
      (own.messagesIn changed later).filter (!field.owns ·) := by
    intro own
    -- of the field itself all messages are left out, and any other field says the same of both
    -- tasks
    by_cases hOwn : own = field
    · subst hOwn
      have hNone : ∀ (given : Value) (moment : Moment),
          (own.messagesIn given moment).filter (!own.owns ·) = [] := by
        intro given moment
        rw [List.filter_eq_nil_iff]
        intro message hMessage
        rw [RuledField.owns_of_mem_messagesIn hMessage]
        exact Bool.false_ne_true
      rw [hNone, hNone]
    · unfold RuledField.messagesIn
      rw [hDiffer.violationsIn_eq hOwn hListed hOthers]
  rw [errors_eq_flatMap h, errors_eq_flatMap hChanged]
  simp only [List.filter_append, List.filter_flatMap, hOptions, hField]

/-- A task of some name whose status and expression are wrong as well. -/
def misnamed (name : String) : Value :=
  .mapping [("id", .text "a"), ("name", .text name), ("execute", .action), ("status", .text "done"),
    ("options", .mapping [("expression", .text "0 6 *")])]

/-- Tasks that are misnamed in two ways differ in their names only. -/
theorem differAt_misnamed (name other : String) :
    DifferAt RuledField.name.path (misnamed name) (misnamed other) := by
  refine ⟨rfl, fun label hLabel => ?_, trivial⟩
  have hName : "name" ≠ label := fun hSame => hLabel hSame.symm
  simp only [misnamed, Value.part, Fields.get?, hName, if_false]

/-- The verdict on such a task, with what is wrong with its name. -/
def misnamedVerdict (nameError : String) : Verdict :=
  ⟨[nameError, "Invalid Task status. Must be one of: pending, running, completed, failed, paused",
    "Invalid cron expression: Invalid number of fields: expected 5, got 3"]⟩

/-- Another bad name changes the message about the name and no other message. -/
theorem validate_independent_misnamed :
    DifferAt RuledField.name.path (misnamed "weekly_report") (misnamed "") ∧
    Subject.task.validate (misnamed "weekly_report") (.universal .first) = .ok (misnamedVerdict
      "Task name must only contain letters, numbers, spaces, and hyphens") ∧
    Subject.task.validate (misnamed "") (.universal .first) =
      .ok (misnamedVerdict "Task name is required") ∧
    (misnamedVerdict "Task name is required").errors.filter RuledField.name.owns =
      RuledField.name.messagesIn (misnamed "") (.universal .first) := by
  have hDiffer := differAt_misnamed "weekly_report" ""
  have hFirst : Subject.task.validate (misnamed "weekly_report") (.universal .first) =
      .ok (misnamedVerdict "Task name must only contain letters, numbers, spaces, and hyphens") := by
    decide +kernel
  have hSecond : Subject.task.validate (misnamed "") (.universal .first) =
      .ok (misnamedVerdict "Task name is required") := by
    decide +kernel
  exact ⟨hDiffer, hFirst, hSecond, (validate_independent hDiffer hFirst hSecond).2.2.own⟩

end Crontab
