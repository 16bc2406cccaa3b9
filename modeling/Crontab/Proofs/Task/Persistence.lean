import Crontab.Proofs.Task.Validity

/-!
# Sound tasks that are recorded, written and read

A sound task whose parts are values of JSON texts becomes a record that is sound, and the record is
read back from its text as a sound one.  Identifier and name may be states, which are texts as well;
they are read back as texts.

* `Task.IsRecordable` — what a task has to hold besides being sound;
* `Task.recorded`, `Task.create_of_isSound` — the record of a sound task;
* `Task.withPlainNames` — a task with its identifier and its name as they are written;
* `Task.IsSound.recorded`, `Task.IsSound.restored` — records, and what is read back of them;
* `Task.exists_write` — the text of a record.
-/

namespace Crontab

open Time

/-! ## Tasks that can be recorded -/

/-- The metadata can be stored once they are those of a record: the count of runs and the name of the
error's kind are values of JSON texts, and the error has a message. -/
structure TaskMetadata.IsRecordable (metadata : TaskMetadata) : Prop where
  runCount : metadata.runCount.IsJson
  kind : ∀ kind message, metadata.lastError = .taskFailure kind message → kind.IsJson
  message : metadata.lastError.isPrintable = true
  lastRun : metadata.lastRun.HasProperOffset
  nextRun : metadata.nextRun.HasProperOffset

/-- The task can be stored once it is a record: its identifier is a text, its options are values of
JSON texts, and it has metadata that can be stored, or none. -/
structure Task.IsRecordable (task : Task) : Prop where
  id : task.id.text?.isSome = true
  options : ∃ options, task.options = .filled options ∧ options.AreJson
  metadata : task.metadata = .other .null ∨
    ∃ metadata, task.metadata = .filled metadata ∧ metadata.IsRecordable

theorem TaskMetadata.isRecordable_default : TaskMetadata.IsRecordable {} where
  runCount := .int (by decide)
  kind := by rintro _ _ ⟨⟩
  message := rfl
  lastRun := trivial
  nextRun := trivial

section recording

variable {task : Task} {options : TaskOptions} {now : Moment}

/-- The metadata of a task that can be stored once it is a record can be stored, even if there are
none. -/
theorem Task.IsRecordable.record (h : task.IsRecordable) :
    task.metadata.metadataRecord.IsRecordable := by
  rcases h.metadata with hNone | ⟨metadata, hSome, hRecordable⟩
  · rw [hNone]
    exact TaskMetadata.isRecordable_default
  · rw [hSome]
    exact hRecordable

/-- The metadata of a sound task are sound, even if there are none. -/
theorem Task.IsSound.record (h : task.IsSound now) (hTask : task.IsRecordable) :
    task.metadata.metadataRecord.IsSound := by
  have hMetadata := h.metadata
  rcases hTask.metadata with hNone | ⟨metadata, hSome, -⟩
  · rw [hNone]
    exact TaskMetadata.isSound_default
  · rw [hSome] at hMetadata ⊢
    exact TaskMetadata.metadataViolations_eq_nil_iff.1 hMetadata

/-! ## Records -/

/-- The record of a task with given options. -/
def Task.recorded (task : Task) (options : TaskOptions) (now : Moment) : Task :=
  { task with
    options := .filled { options with timezone := recordZone .null options.timezone }
    metadata := .filled (task.metadata.metadataRecord.created now) }

/-- A status without violations is a state or the name of one. -/
theorem exists_state {status : Value} (h : statusViolations status = []) :
    ∃ state, status.text?.bind Status.ofName? = some state := by
  rw [statusViolations, violates_eq_nil_iff, Option.isNone_eq_false_iff] at h
  exact Option.isSome_iff_exists.1 h

/-- Writing a value that may be a state does not change its text. -/
theorem text?_encodeStatus (value : Value) : (encodeStatus value).text? = value.text? := by
  cases value <;> rfl

/-- A text that names a state is not empty. -/
theorem isTruthy_of_names {status : Value} {state : Status}
    (h : status.text?.bind Status.ofName? = some state) : status.isTruthy = true := by
  rcases bind_ofName?_eq_some_iff.1 h with rfl | rfl
  · rfl
  · cases state <;> rfl

/-- What is made of a sound task is its record, under its own identifier. -/
theorem Task.create_of_isSound (h : task.IsSound now) (hTask : task.IsRecordable)
    (hOptions : task.options = .filled options) (wall : Wall) (issuer : Issuer) :
    task.create .null (.universal wall) issuer =
      (.ok (task.recorded options (.universal wall)), issuer) := by
  obtain ⟨state, hState⟩ := exists_state h.status
  have hId : chooseIdentifier .null task.id issuer = (task.id, issuer) := by
    have hNull : ¬Value.null.isTruthy = true := by decide
    rw [chooseIdentifier, if_neg hNull, if_pos h.id]
  have hMetadata : createMetadata task.metadata (.universal wall) =
      .ok (task.metadata.metadataRecord.created (.universal wall)) := by
    rcases hTask.metadata with hNone | ⟨metadata, hSome, -⟩
    · rw [hNone]
      rfl
    · rw [hSome]
      rfl
  rw [Task.create, hOptions, createOptions]
  simp only [hId, hMetadata, orElse_of_isTruthy (isTruthy_of_names hState)]
  rfl

/-- A zone without violations has none when it is filled in. -/
theorem timezoneViolations_recordZone {zone : Value} {wall : Wall}
    (h : timezoneViolations zone (.universal wall) = .ok []) :
    timezoneViolations (recordZone .null zone) (.universal wall) = .ok [] := by
  have hZone : recordZone .null zone = zone.orElse (.text "UTC") := rfl
  rw [hZone, Value.orElse]
  split
  · exact h
  · exact timezoneViolations_universal wall

/-- The record of a sound task is sound. -/
theorem Task.IsSound.recorded {wall : Wall} (h : task.IsSound (.universal wall))
    (hTask : task.IsRecordable) (hOptions : task.options = .filled options) :
    (task.recorded options now).IsSound (.universal wall) where
  id := h.id
  name := h.name
  status := h.status
  options := by
    have hNone := h.options
    rw [hOptions] at hNone
    obtain ⟨hExpression, hZone, hOthers⟩ := optionsViolations_eq_ok_nil_iff.1 hNone
    exact optionsViolations_eq_ok_nil_iff.2
      ⟨hExpression, timezoneViolations_recordZone hZone, hOthers⟩
  metadata := TaskMetadata.metadataViolations_eq_nil_iff.2 ((h.record hTask).created now)

/-! ## Names as they are written -/

/-- The task with its identifier and its name as they are written. -/
def Task.withPlainNames (task : Task) : Task :=
  { task with id := encodeStatus task.id, name := encodeStatus task.name }

/-- A value with a text is written as a text. -/
theorem exists_encodeStatus_of_text? {value : Value} (h : value.text?.isSome = true) :
    ∃ s, encodeStatus value = .text s := by
  cases value with
  | text s => exact ⟨s, rfl⟩
  | status state => exact ⟨state.name, rfl⟩
  | _ => cases h

/-- Writing a value that may be a state does not change its JSON value. -/
theorem toJson?_encodeStatus (value : Value) : (encodeStatus value).toJson? = value.toJson? := by
  cases value <;> rfl

/-- Writing the identifier and the name beforehand does not change the text of a task. -/
theorem Task.write_withPlainNames (task : Task) : task.withPlainNames.write = task.write := by
  have hSame : task.withPlainNames.toJson = task.toJson := by
    unfold Task.toJson Task.encode? Task.withPlainNames
    dsimp only
    cases task.options.readOptions? with
    | none => rfl
    | some options =>
      cases task.metadata.readMetadata? with
      | none => rfl
      | some metadata =>
        simp only [Option.bind_eq_bind, Option.bind_some, Option.pure_def, Value.toJson?,
          Value.fieldsToJson?, toJson?_encodeStatus]
  rw [Task.write, hSame, Task.write]

/-- A name without violations is a text. -/
theorem isSome_text?_of_nameViolations {name : Value} (h : nameViolations name = []) :
    name.text?.isSome = true := by
  unfold nameViolations at h
  split at h
  · split at h
    · simp at h
    · next text hText => rw [hText]; rfl
  · simp at h

/-- Writing a name beforehand does not change what is wrong with it. -/
theorem nameViolations_encodeStatus (name : Value) :
    nameViolations (encodeStatus name) = nameViolations name := by
  rw [nameViolations, nameViolations, isTruthy_encodeStatus_eq, text?_encodeStatus]

/-- What is read back of a sound record is sound. -/
theorem Task.IsSound.restored (h : task.IsSound now) (hRecord : task.metadata.metadataRecord.IsSound) :
    task.withPlainNames.restored.IsSound now where
  id := by
    rw [Task.restored, Task.withPlainNames]
    dsimp only
    rw [isTruthy_encodeStatus_eq, h.id]
  name := by
    rw [Task.restored, Task.withPlainNames]
    dsimp only
    rw [nameViolations_encodeStatus, h.name]
  status := by
    obtain ⟨state, hState⟩ := exists_state h.status
    have hTruthy : (encodeStatus task.status).isTruthy = true := by
      rw [isTruthy_encodeStatus_eq, isTruthy_of_names hState]
    have hRestored : task.withPlainNames.restored.status = .status state := by
      rw [Task.restored, Task.withPlainNames]
      dsimp only
      rw [restoredStatus, orElse_of_isTruthy hTruthy, decodeStatus, text?_encodeStatus, hState]
    rw [hRestored, statusViolations, Value.text?, Option.bind_some, Status.ofName?_name]
    rfl
  options := h.options
  metadata := TaskMetadata.metadataViolations_eq_nil_iff.2 hRecord.restored

/-! ### Verdicts -/

section verdicts

variable {other : Verdict} {wall : Wall}

/-- Whenever there is a verdict on a sound task with something to execute, its record is valid. -/
theorem Task.IsSound.validate_recorded (h : task.IsSound now) (hTask : task.IsRecordable)
    (hOptions : task.options = .filled options) (hExecute : task.execute.isCallable = true)
    (hOther : Subject.task.validate task.toValue (.universal wall) = .ok other) (made : Moment) :
    Subject.task.validate (task.recorded options made).toValue (.universal wall) = .ok ⟨[]⟩ := by
  have hSame : (task.recorded options made).execute = task.execute := rfl
  rw [((h.later hOther).recorded hTask hOptions).validate, hSame, if_pos hExecute]

/-- All that is wrong with what is read back of the record is that there is nothing to execute. -/
theorem Task.IsSound.validate_restored (h : task.IsSound now) (hTask : task.IsRecordable)
    (hOptions : task.options = .filled options)
    (hOther : Subject.task.validate task.toValue (.universal wall) = .ok other) (made : Moment) :
    Subject.task.validate (task.recorded options made).withPlainNames.restored.toValue
      (.universal wall) = .ok ⟨[Violation.notExecutable.message]⟩ := by
  have hRecord : (task.recorded options made).metadata.metadataRecord.IsSound :=
    (h.record hTask).created made
  exact (((h.later hOther).recorded hTask hOptions).restored hRecord).validate

end verdicts

/-! ## Texts of records -/

/-- An error without violations that can be recorded can be stored. -/
theorem TaskMetadata.IsRecordable.isStorableFailure {metadata : TaskMetadata}
    (h : metadata.IsRecordable) (hSound : metadata.IsSound) :
    metadata.lastError.IsStorableFailure := by
  have hError := hSound.lastError
  cases hLast : metadata.lastError with
  | null => trivial
  | failure kind message => trivial
  | taskFailure kind message => exact h.kind kind message hLast
  | _ =>
    rw [hLast] at hError
    simp [Value.isNull, Value.isFailure] at hError

/-- The metadata of a record can be stored. -/
theorem TaskMetadata.IsRecordable.isStorable_created {metadata : TaskMetadata}
    (h : metadata.IsRecordable) (hSound : metadata.IsSound) (wall : Wall) :
    (metadata.created (.universal wall)).IsStorable where
  runCount := by
    unfold TaskMetadata.created
    dsimp only
    split
    · exact .int (by decide)
    · exact h.runCount
  lastError := h.isStorableFailure hSound
  moments := by
    have hNow : (Value.moment (.universal wall)).HasProperOffset :=
      hasProperOffset_of_isUniversalMoment ⟨wall, rfl⟩
    simp only [List.forall_mem_cons]
    exact ⟨hasProperOffset_of_isRecordedMoment (isRecordedMoment_awareMoment h.lastRun),
      hasProperOffset_of_isRecordedMoment (isRecordedMoment_awareMoment h.nextRun), hNow, hNow,
      List.forall_mem_nil _⟩

/-- The record of a sound task can be stored. -/
theorem Task.IsSound.isStorable_recorded (h : task.IsSound now) (hTask : task.IsRecordable)
    (hOptions : task.options = .filled options) (wall : Wall) :
    (task.recorded options (.universal wall)).withPlainNames.IsStorable where
  id := by
    obtain ⟨s, hId⟩ := exists_encodeStatus_of_text? hTask.id
    rw [Task.withPlainNames, Task.recorded, hId]
    exact .text s
  name := by
    obtain ⟨s, hName⟩ := exists_encodeStatus_of_text? (isSome_text?_of_nameViolations h.name)
    rw [Task.withPlainNames, Task.recorded, hName]
    exact .text s
  status := by
    obtain ⟨state, hState⟩ := exists_state h.status
    cases hStatus : task.status with
    | text s => exact .inl (hStatus ▸ .text s)
    | status own => exact .inr ⟨own, hStatus⟩
    | _ =>
      rw [hStatus] at hState
      cases hState
  options := by
    obtain ⟨own, hOwn, hJson⟩ := hTask.options
    obtain rfl := Slot.filled.inj (hOwn.symm.trans hOptions)
    exact ⟨_, rfl, hJson.withZone (isJson_recordZone .null hJson.timezone)⟩
  metadata := .inr ⟨_, rfl, hTask.record.isStorable_created (h.record hTask) wall⟩

/-- The record of a sound task is written as a text, which is read as what is left of it. -/
theorem Task.exists_write (h : task.IsSound now) (hTask : task.IsRecordable)
    (hOptions : task.options = .filled options) (wall : Wall) :
    ∃ text, (task.recorded options (.universal wall)).write = .ok text ∧
      Task.read text = .ok (task.recorded options (.universal wall)).withPlainNames.restored := by
  rw [← Task.write_withPlainNames]
  exact Task.read_write (h.isStorable_recorded hTask hOptions wall)

end recording

end Crontab
