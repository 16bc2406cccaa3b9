import Crontab.Proofs.Time.Iso
import Crontab.Proofs.Value.Json
import Crontab.Task.Text

/-!
# What is read for a written task

A task that can be stored is written as a text, and the text is read as a task of the same content.

* `Task.restored` — what is left of a task when it is written and read;
* `Task.IsStorable` — the tasks that can be stored;
* `decodeFields_encoded` — the mapping of a task is read as what is left of it;
* `Task.read_write` — so is its text.
-/

namespace Crontab

open Time

/-! ## What is left of a task -/

/-- What is left of a moment: its instant, naive moments being read in universal time. -/
def restoredMoment : Value → Value
  | .moment moment => .moment moment.restored
  | _ => .null

/-- What is left of an error: the name of its kind and its message. -/
def restoredFailure (error : Value) : Value :=
  if error.isNull then .null
  else .taskFailure ((failureKind error).orElse (.text "Error")) (.text error.plain)

/-- What is left of a status: the state it names if it names one, and pending if there is none. -/
def restoredStatus (status : Value) : Value :=
  decodeStatus ((encodeStatus status).orElse (.text Status.pending.name))

/-- What is left of metadata. -/
def TaskMetadata.restored (metadata : TaskMetadata) : TaskMetadata where
  runCount := metadata.runCount
  lastRun := restoredMoment metadata.lastRun
  nextRun := restoredMoment metadata.nextRun
  lastError := restoredFailure metadata.lastError
  createdAt := restoredMoment metadata.createdAt
  updatedAt := restoredMoment metadata.updatedAt

/-- The metadata in a place; those of a task that has not run if there is no record. -/
def Slot.metadataRecord : Slot TaskMetadata → TaskMetadata
  | .filled metadata => metadata
  | .other _ => {}

/-- What is left of a task: everything but what there is to execute. -/
def Task.restored (task : Task) : Task where
  id := task.id
  name := task.name
  status := restoredStatus task.status
  execute := .null
  options := task.options
  metadata := .filled task.metadata.metadataRecord.restored

/-! ## Tasks that can be stored -/

/-- A moment has an offset of less than a day; other values do not matter. -/
def Value.HasProperOffset : Value → Prop
  | .moment m => m.IsProper
  | _ => True

/-- No error, or one of which a JSON text holds the name of its kind. -/
def Value.IsStorableFailure : Value → Prop
  | .null | .failure _ _ => True
  | .taskFailure kind _ => kind.IsJson
  | _ => False

/-- The metadata can be stored. -/
structure TaskMetadata.IsStorable (metadata : TaskMetadata) : Prop where
  runCount : metadata.runCount.IsJson
  lastError : metadata.lastError.IsStorableFailure
  moments : ∀ value ∈ [metadata.lastRun, metadata.nextRun, metadata.createdAt, metadata.updatedAt],
    value.HasProperOffset

/-- The task can be stored: its parts are values of JSON texts, and there are options. -/
structure Task.IsStorable (task : Task) : Prop where
  id : task.id.IsJson
  name : task.name.IsJson
  status : task.status.IsJson ∨ ∃ status, task.status = .status status
  options : ∃ options, task.options = .filled options ∧
    ∀ field ∈ options.toFields, field.2.IsJson
  metadata : task.metadata = .other .null ∨
    ∃ metadata, task.metadata = .filled metadata ∧ metadata.IsStorable

theorem TaskMetadata.isStorable_default : TaskMetadata.IsStorable {} where
  runCount := .int (by decide)
  lastError := trivial
  moments := by simp [Value.HasProperOffset]

/-- The metadata of a task that can be stored can be stored, even if there are none. -/
theorem Task.IsStorable.record {task : Task} (h : task.IsStorable) :
    task.metadata.metadataRecord.IsStorable := by
  rcases h.metadata with hNone | ⟨metadata, hSome, hStorable⟩
  · rw [hNone]
    exact TaskMetadata.isStorable_default
  · rw [hSome]
    exact hStorable

/-- A task that can be stored has metadata or none, and nothing else in their place. -/
theorem Task.IsStorable.filled {task : Task} (h : task.IsStorable) :
    task.metadata = .other .null ∨ ∃ metadata, task.metadata = .filled metadata :=
  h.metadata.imp_right fun ⟨metadata, hSome, _⟩ => ⟨metadata, hSome⟩

/-! ## Moments, errors and states -/

section parts

/-- The text of a moment is not empty. -/
theorem iso_isEmpty (moment : Moment) : moment.iso.isEmpty = false := by
  have hNe : moment.isoChars ≠ [] := by
    rw [Moment.isoChars_eq]
    exact List.append_ne_nil_of_right_ne_nil _ (List.cons_ne_nil _ _)
  rw [Moment.iso, String.isEmpty_eq_false_iff]
  intro hEmpty
  exact hNe (by rw [← String.toList_ofList (l := moment.isoChars), hEmpty, String.toList_empty])

/-- Reading back a written moment gives what is left of it. -/
theorem decodeMoment_encodeMoment {value : Value} (h : value.HasProperOffset) :
    decodeMoment (encodeMoment value) = .ok (restoredMoment value) := by
  cases value with
  | moment m =>
    have hRead : Moment.ofIso m.iso.toList = .ok ⟨m.wall, m.writtenClock, .first⟩ := by
      rw [Moment.iso, String.toList_ofList, Moment.ofIso_isoChars h]
    simp only [encodeMoment, decodeMoment, Value.text?, iso_isEmpty, hRead, Bool.false_eq_true,
      if_false, Moment.orOnClock_written, restoredMoment]
  | _ => rfl

/-- A moment is written as a JSON value. -/
theorem isJson_encodeMoment (value : Value) : (encodeMoment value).IsJson := by
  cases value with
  | moment m => exact .text m.iso
  | _ => exact .null

/-- Reading back a written error gives what is left of it. -/
theorem decodeFailure_encodeFailure (error : Value) :
    decodeFailure (encodeFailure error) = restoredFailure error := by
  unfold encodeFailure restoredFailure
  split
  · rfl
  · rfl

/-- The name of an error's kind is one that a JSON text holds. -/
theorem isJson_failureKind {error : Value} (h : error.IsStorableFailure) (hError : error ≠ .null) :
    (failureKind error).IsJson := by
  cases error with
  | null => exact absurd rfl hError
  | failure kind message => exact .text kind
  | taskFailure kind message =>
    unfold failureKind Value.orElse
    split
    · exact h
    · exact .text _
  | _ => exact h.elim

/-- A storable error is written as a JSON value. -/
theorem isJson_encodeFailure {error : Value} (h : error.IsStorableFailure) :
    (encodeFailure error).IsJson := by
  unfold encodeFailure
  split
  · exact .null
  · next hError =>
    have hNames : ["type", "message"].Nodup := by decide
    refine .mapping hNames fun field hField => ?_
    rw [List.mem_cons, List.mem_singleton] at hField
    rcases hField with rfl | rfl
    · refine isJson_failureKind h ?_
      rintro rfl
      exact hError rfl
    · exact .text _

/-- A state or a JSON value is written as a JSON value. -/
theorem isJson_encodeStatus {value : Value}
    (h : value.IsJson ∨ ∃ status, value = .status status) : (encodeStatus value).IsJson := by
  rcases h with ⟨json, hRegular, rfl⟩ | ⟨status, rfl⟩
  · cases json <;> exact ⟨_, hRegular, rfl⟩
  · exact .text status.name

end parts

/-! ## Mappings of tasks -/

/-- Options are read from their mapping. -/
theorem TaskOptions.ofFields_toFields (options : TaskOptions) :
    TaskOptions.ofFields options.toFields = options := by
  rfl

section mappings

/-- Metadata are read from fields that hold the texts of their moments, with the count of runs and the
error that these fields hold. -/
theorem TaskMetadata.decode_eq_ok {metadata : TaskMetadata} {fields : Fields Value}
    {count error : Value}
    (hMoments : ∀ value ∈ [metadata.lastRun, metadata.nextRun, metadata.createdAt,
      metadata.updatedAt], value.HasProperOffset)
    (hCount : fields.get? "run_count" = some count)
    (hLast : fields.get? "last_run" = some (encodeMoment metadata.lastRun))
    (hNext : fields.get? "next_run" = some (encodeMoment metadata.nextRun))
    (hError : fields.get? "last_error" = some error)
    (hCreated : fields.get? "created_at" = some (encodeMoment metadata.createdAt))
    (hUpdated : fields.get? "updated_at" = some (encodeMoment metadata.updatedAt)) :
    TaskMetadata.decode fields =
      .ok { metadata.restored with runCount := count, lastError := decodeFailure error } := by
  simp only [List.forall_mem_cons] at hMoments
  obtain ⟨hLastOffset, hNextOffset, hCreatedOffset, hUpdatedOffset, -⟩ := hMoments
  unfold TaskMetadata.decode
  simp only [hCount, hLast, hNext, hError, hCreated, hUpdated, Option.getD_some]
  rw [decodeMoment_encodeMoment hLastOffset, decodeMoment_encodeMoment hNextOffset,
    decodeMoment_encodeMoment hCreatedOffset, decodeMoment_encodeMoment hUpdatedOffset]
  rfl

/-- The mapping of metadata is read as what is left of them. -/
theorem TaskMetadata.decode_encode {metadata : TaskMetadata} (h : metadata.IsStorable) :
    TaskMetadata.decode metadata.encode = .ok metadata.restored := by
  rw [TaskMetadata.decode_eq_ok h.moments rfl rfl rfl rfl rfl rfl, decodeFailure_encodeFailure]
  rfl

/-- No name occurs twice in the mapping of metadata. -/
theorem TaskMetadata.nodup_names_encode (metadata : TaskMetadata) :
    (Fields.names metadata.encode).Nodup := by
  have hNames : TaskMetadata.names.Nodup := by decide
  exact hNames

/-- The mapping of storable metadata is a JSON value. -/
theorem TaskMetadata.isJson_encode {metadata : TaskMetadata} (h : metadata.IsStorable) :
    (Value.mapping metadata.encode).IsJson := by
  refine .mapping metadata.nodup_names_encode fun field hField => ?_
  simp only [TaskMetadata.encode, List.mem_cons, List.not_mem_nil, or_false] at hField
  rcases hField with rfl | rfl | rfl | rfl | rfl | rfl
  · exact h.runCount
  · exact isJson_encodeMoment _
  · exact isJson_encodeMoment _
  · exact isJson_encodeFailure h.lastError
  · exact isJson_encodeMoment _
  · exact isJson_encodeMoment _

/-- The mapping of a task. -/
def Task.encoded (task : Task) (options : TaskOptions) : Fields Value :=
  [("id", task.id), ("name", task.name), ("status", encodeStatus task.status),
   ("options", .mapping options.toFields),
   ("metadata", .mapping task.metadata.metadataRecord.encode)]

variable {task : Task} {options : TaskOptions}

/-- No name occurs twice in the mapping of options. -/
theorem TaskOptions.nodup_names_toFields (options : TaskOptions) :
    (Fields.names options.toFields).Nodup := by
  have hNames : TaskOptions.names.Nodup := by decide
  exact hNames

/-- No name occurs twice in the mapping of a task. -/
theorem Task.nodup_names_encoded (task : Task) (options : TaskOptions) :
    (Fields.names (task.encoded options)).Nodup := by
  have hNames : ["id", "name", "status", "options", "metadata"].Nodup := by decide
  exact hNames

/-- A task with options, and with metadata or none, is written as a mapping. -/
theorem Task.encode?_eq (hOptions : task.options = .filled options)
    (hMetadata : task.metadata = .other .null ∨ ∃ metadata, task.metadata = .filled metadata) :
    task.encode? = some (task.encoded options) := by
  unfold Task.encode? Task.encoded
  rcases hMetadata with hNone | ⟨metadata, hSome⟩
  · rw [hOptions, hNone]
    rfl
  · rw [hOptions, hSome]
    rfl

/-- A task is read from fields of which the options and the metadata can be read. -/
theorem Task.decodeFields_eq_ok {fields own parts : Fields Value} {first second : Value}
    {metadata : TaskMetadata} (hFirst : fields.get? "options" = some first)
    (hSecond : fields.get? "metadata" = some second) (hOptions : optionsFields first = .ok own)
    (hParts : metadataFields second = .ok parts)
    (hMetadata : TaskMetadata.decode parts = .ok metadata) :
    Task.decodeFields fields =
      .ok
        { id := (fields.get? "id").getD .null
          name := (fields.get? "name").getD (.text "")
          status := decodeStatus (((fields.get? "status").getD .null).orElse
            (.text Status.pending.name))
          execute := .null
          options := .filled (TaskOptions.ofFields own)
          metadata := .filled metadata } := by
  unfold Task.decodeFields
  simp only [hFirst, hSecond, Option.getD_some]
  rw [hOptions, ok_bind, hParts, ok_bind, hMetadata]
  rfl

/-- The mapping of a task is read as what is left of it. -/
theorem decodeFields_encoded (hOptions : task.options = .filled options)
    (h : task.metadata.metadataRecord.IsStorable) :
    Task.decodeFields (task.encoded options) = .ok task.restored := by
  have hFields : optionsFields (.mapping options.toFields) = .ok options.toFields := rfl
  rw [Task.decodeFields_eq_ok rfl rfl hFields rfl (TaskMetadata.decode_encode h),
    TaskOptions.ofFields_toFields, ← hOptions]
  rfl

/-- The mapping of a storable task is a JSON value. -/
theorem Task.isJson_encoded (h : task.IsStorable) (hOptions : task.options = .filled options) :
    (Value.mapping (task.encoded options)).IsJson := by
  refine .mapping (task.nodup_names_encoded options) fun field hField => ?_
  simp only [Task.encoded, List.mem_cons, List.not_mem_nil, or_false] at hField
  rcases hField with rfl | rfl | rfl | rfl | rfl
  · exact h.id
  · exact h.name
  · exact isJson_encodeStatus h.status
  · obtain ⟨own, hOwn, hValues⟩ := h.options
    obtain rfl : own = options := by
      rw [hOptions] at hOwn
      exact (Slot.filled.inj hOwn).symm
    exact .mapping own.nodup_names_toFields hValues
  · exact TaskMetadata.isJson_encode h.record

end mappings

/-! ## Texts of tasks -/

/-- A task is written as the JSON value of its mapping. -/
theorem Task.toJson_eq {task : Task} {fields : Fields Value} {json : Json} (h : task.encode? = some fields)
    (hJson : json.toValue = .mapping fields) : task.toJson = .ok json := by
  rw [Task.toJson, h]
  simp only
  rw [← hJson, json.toJson?_toValue]

/-- The task of a text is that of its JSON value. -/
theorem Task.read_eq_ok_iff {text : String} {task : Task} :
    Task.read text = .ok task ↔
      ∃ json, Json.ofText text = .ok json ∧ Task.decode json.toValue = .ok task := by
  rw [Task.read]
  cases hText : Json.ofText text with
  | error fault =>
    constructor
    · rintro ⟨⟩
    · rintro ⟨_, ⟨⟩, -⟩
  | ok json =>
    dsimp only
    cases hDecode : Task.decode json.toValue with
    | error fault =>
      constructor
      · rintro ⟨⟩
      · rintro ⟨_, ⟨⟩, hOther⟩
        rw [hDecode] at hOther
        cases hOther
    | ok own =>
      constructor
      · rintro ⟨⟩
        exact ⟨json, rfl, hDecode⟩
      · rintro ⟨_, ⟨⟩, hOther⟩
        exact congrArg Except.ok (Except.ok.inj (hDecode.symm.trans hOther))

/-- **Reading back.** A task that can be stored is written as a text that is read as what is left
of it. -/
theorem Task.read_write {task : Task} (h : task.IsStorable) :
    ∃ text, task.write = .ok text ∧ Task.read text = .ok task.restored := by
  obtain ⟨options, hOptions, -⟩ := h.options
  obtain ⟨json, hRegular, hValue⟩ := Task.isJson_encoded h hOptions
  have hJson : task.toJson = .ok json := Task.toJson_eq (Task.encode?_eq hOptions h.filled) hValue
  refine ⟨json.toText, ?_, ?_⟩
  · rw [Task.write, hJson]
    exact if_pos (json.isWritable_of_isRegular hRegular)
  rw [Task.read, Json.ofText_toText hRegular]
  simp only
  rw [hValue, Task.decode, decodeFields_encoded hOptions h.record]

end Crontab
