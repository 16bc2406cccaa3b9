import Crontab.Proofs.Task.Stamps
import Crontab.Task.Text

/-!
# Records that are read back

A record of which only values of JSON texts are kept is read back with its stamps, whatever its other
parts have become.

* `Task.Retells` — records with the stamps of another one;
* `Task.IsRecallOf` — what is read back of a record;
* `Task.exists_recall` — it is read from what is kept of its options and its metadata;
* `Task.exists_recall_write` — and from its text.
-/

namespace Crontab

open Time

/-! ## Records with the same stamps -/

/-- The metadata have the stamps of others, and runs where those have runs. -/
structure TaskMetadata.Retells (read metadata : TaskMetadata) : Prop where
  createdAt : read.createdAt = metadata.createdAt
  updatedAt : read.updatedAt = metadata.updatedAt
  lastRun : read.lastRun.isMoment = metadata.lastRun.isMoment
  nextRun : read.nextRun.isMoment = metadata.nextRun.isMoment

/-- The record has the identifier and the stamps of another one. -/
structure Task.Retells (read task : Task) : Prop where
  id : read.id = task.id
  metadata : read.metadata.metadataRecord.Retells task.metadata.metadataRecord

/-- The record is what is read back of another one. -/
structure Task.IsRecallOf (read task : Task) : Prop where
  stamped : read.IsStamped
  proper : read.IsProper
  retells : read.Retells task

/-- A stamped and proper record is what is read back of itself. -/
theorem Task.IsRecallOf.refl {task : Task} (h : task.IsStamped) (hProper : task.IsProper) :
    task.IsRecallOf task :=
  ⟨h, hProper, rfl, rfl, rfl, rfl, rfl⟩

/-- What comes after a record that was read back comes after the record that was written. -/
theorem Task.Retells.precedes {read task later : Task} (h : read.Retells task)
    (hLater : read.Precedes later) : task.Precedes later where
  id := hLater.id.trans h.id
  metadata :=
    { createdAt := hLater.metadata.createdAt.trans h.metadata.createdAt
      updatedAt := h.metadata.updatedAt ▸ hLater.metadata.updatedAt
      lastRun := h.metadata.lastRun ▸ hLater.metadata.lastRun
      nextRun := h.metadata.nextRun ▸ hLater.metadata.nextRun }

/-! ## What is kept of options and metadata -/

section kept

open Value

variable {value kept : Value} {options : TaskOptions} {metadata : TaskMetadata}

/-- Options are read from what is kept of them, and name a zone if they did. -/
theorem optionsFields_of_isKeptAs (h : (Value.mapping options.toFields).IsKeptAs kept)
    (hKept : kept.IsProper) (hZone : options.timezone.isTruthy = true) :
    ∃ fields, optionsFields kept = .ok fields ∧
      (TaskOptions.ofFields fields).timezone.isTruthy = true ∧
      HaveProperValues (TaskOptions.ofFields fields).toFields := by
  obtain ⟨fields, rfl, hFields⟩ := h.of_mapping
  obtain ⟨expression, hExpression, -⟩ := hFields "expression" rfl
  obtain ⟨zone, hFound, hSame⟩ := hFields "timezone" rfl
  have hHas : Fields.has fields "expression" = true := by
    rw [Fields.has, hExpression]
    rfl
  have hGet : (TaskOptions.ofFields fields).timezone = zone := by
    change (Fields.get? fields "timezone").getD _ = zone
    rw [hFound]
    rfl
  have hDefault : HaveProperValues (TaskOptions.toFields { expression := .null }) :=
    ⟨trivial, trivial, trivial, trivial, trivial, trivial, trivial, trivial⟩
  refine ⟨fields, ?_, ?_, TaskOptions.haveProperValues_replaced hDefault hKept.2⟩
  · rw [optionsFields, if_pos hHas]
  · rw [hGet, hSame.isTruthy_eq, hZone]

/-- What is kept of a written moment is that text. -/
theorem eq_encodeMoment_of_isKeptAs (h : (encodeMoment value).IsKeptAs kept) :
    kept = encodeMoment value := by
  cases value with
  | moment m => exact h.eq_text
  | _ => exact h.eq_null

/-- An error that is read from a proper value is proper. -/
theorem isProper_decodeFailure (h : value.IsProper) : (decodeFailure value).IsProper := by
  cases value with
  | mapping fields =>
    have hKind : ((Fields.get? fields "type").getD .null).IsProper :=
      h.2.getD "type" trivial
    have hMessage : ((Fields.get? fields "message").getD (.text "")).IsProper :=
      h.2.getD "message" trivial
    exact ⟨hKind.orElse trivial, hMessage⟩
  | _ => trivial

/-- What is left of a moment is one, and of nothing else. -/
theorem isMoment_restoredMoment (value : Value) :
    (restoredMoment value).isMoment = value.isMoment := by
  cases value <;> rfl

/-- Metadata are read from what is kept of them, with the same stamps. -/
theorem TaskMetadata.decode_of_isKeptAs (h : metadata.IsStamped)
    (hSame : (Value.mapping metadata.encode).IsKeptAs kept) (hKept : kept.IsProper) :
    ∃ fields read, metadataFields kept = .ok fields ∧ TaskMetadata.decode fields = .ok read ∧
      read.IsStamped ∧ HaveProperValues read.toFields ∧ read.Retells metadata := by
  obtain ⟨fields, rfl, hFields⟩ := hSame.of_mapping
  obtain ⟨count, hCount, -⟩ := hFields "run_count" rfl
  obtain ⟨last, hLast, hSameLast⟩ := hFields "last_run" rfl
  obtain ⟨next, hNext, hSameNext⟩ := hFields "next_run" rfl
  obtain ⟨error, hError, -⟩ := hFields "last_error" rfl
  obtain ⟨created, hCreated, hSameCreated⟩ := hFields "created_at" rfl
  obtain ⟨updated, hUpdated, hSameUpdated⟩ := hFields "updated_at" rfl
  obtain rfl := eq_encodeMoment_of_isKeptAs hSameLast
  obtain rfl := eq_encodeMoment_of_isKeptAs hSameNext
  obtain rfl := eq_encodeMoment_of_isKeptAs hSameCreated
  obtain rfl := eq_encodeMoment_of_isKeptAs hSameUpdated
  obtain ⟨first, latest, hFirst, hLatest, hOrder⟩ := h.stamps
  have hFirstMoment : metadata.createdAt.IsUniversalMoment := ⟨first, hFirst⟩
  have hLatestMoment : metadata.updatedAt.IsUniversalMoment := ⟨latest, hLatest⟩
  have hMoments : ∀ value ∈ [metadata.lastRun, metadata.nextRun, metadata.createdAt,
      metadata.updatedAt], value.HasProperOffset := by
    simp only [List.forall_mem_cons]
    exact ⟨hasProperOffset_of_isRecordedMoment h.lastRun,
      hasProperOffset_of_isRecordedMoment h.nextRun,
      hasProperOffset_of_isUniversalMoment hFirstMoment,
      hasProperOffset_of_isUniversalMoment hLatestMoment, List.forall_mem_nil _⟩
  have hDecode :=
    TaskMetadata.decode_eq_ok hMoments hCount hLast hNext hError hCreated hUpdated
  -- the stamps are in universal time, of which reading back loses nothing
  have hCreatedAt : metadata.restored.createdAt = metadata.createdAt :=
    restoredMoment_of_isUniversalMoment hFirstMoment
  have hUpdatedAt : metadata.restored.updatedAt = metadata.updatedAt :=
    restoredMoment_of_isUniversalMoment hLatestMoment
  have hLastRun := isRecordedMoment_restoredMoment h.lastRun
  have hNextRun := isRecordedMoment_restoredMoment h.nextRun
  refine ⟨fields, _, rfl, hDecode, ⟨hLastRun, hNextRun, first, latest,
    hCreatedAt.trans hFirst, hUpdatedAt.trans hLatest, hOrder⟩, ?_,
    hCreatedAt, hUpdatedAt, isMoment_restoredMoment _, isMoment_restoredMoment _⟩
  exact ⟨hKept.2.get? hCount, isProper_of_isRecordedMoment hLastRun,
    isProper_of_isRecordedMoment hNextRun, isProper_decodeFailure (hKept.2.get? hError),
    (hCreatedAt.trans hFirst) ▸ isProper_universal first,
    (hUpdatedAt.trans hLatest) ▸ isProper_universal latest, trivial⟩

end kept

/-! ## What is read of a record -/

section reading

open Value

variable {task : Task} {options : TaskOptions} {fields : Fields Value}

/-- A status that is read from a proper value is proper. -/
theorem isProper_decodeStatus {status : Value} (h : status.IsProper) :
    (decodeStatus status).IsProper := by
  unfold decodeStatus
  split
  · trivial
  · exact h

/-- **Reading back.** A record is read back from fields that have its identifier and keep its options
and its metadata. -/
theorem Task.exists_recall (h : task.IsStamped) (hOptions : task.options = .filled options)
    (hFields : HaveProperValues fields) (hId : fields.get? "id" = some task.id)
    (hKeptOptions : ∃ kept, fields.get? "options" = some kept ∧
      (Value.mapping options.toFields).IsKeptAs kept)
    (hKeptMetadata : ∃ kept, fields.get? "metadata" = some kept ∧
      (Value.mapping task.metadata.metadataRecord.encode).IsKeptAs kept) :
    ∃ read, Task.decodeFields fields = .ok read ∧ read.IsRecallOf task := by
  obtain ⟨own, hOwn, hZone⟩ := h.options
  obtain rfl := Slot.filled.inj (hOptions.symm.trans hOwn)
  obtain ⟨keptOptions, hGetOptions, hSameOptions⟩ := hKeptOptions
  obtain ⟨given, hGiven, hGivenZone, hGivenProper⟩ :=
    optionsFields_of_isKeptAs hSameOptions (hFields.get? hGetOptions) hZone
  obtain ⟨keptMetadata, hGetMetadata, hSameMetadata⟩ := hKeptMetadata
  obtain ⟨parts, read, hParts, hDecode, hRead, hReadProper, hRetells⟩ :=
    TaskMetadata.decode_of_isKeptAs h.isStamped_metadataRecord hSameMetadata (hFields.get? hGetMetadata)
  have hStatus : ((Fields.get? fields "status").getD .null).IsProper :=
    hFields.getD "status" trivial
  have hName : ((Fields.get? fields "name").getD (.text "")).IsProper :=
    hFields.getD "name" trivial
  have hOwnId : (fields.get? "id").getD .null = task.id := by
    rw [hId]
    rfl
  have hDecodeFields := Task.decodeFields_eq_ok hGetOptions hGetMetadata hGiven hParts hDecode
  rw [hOwnId] at hDecodeFields
  refine ⟨_, hDecodeFields, ⟨h.id, ⟨_, rfl, hGivenZone⟩, read, rfl, hRead⟩, ?_, rfl, hRetells⟩
  exact
    { id := hFields.get? hId
      name := hName
      status := isProper_decodeStatus (hStatus.orElse trivial)
      execute := trivial
      options := hGivenProper
      metadata := hReadProper }

end reading

/-! ## Texts of records -/

section write

open Value

variable {task : Task} {options : TaskOptions} {value : Value}

/-- A written moment is proper. -/
theorem isProper_encodeMoment (value : Value) : (encodeMoment value).IsProper := by
  cases value <;> trivial

/-- A proper status is written as a proper value. -/
theorem isProper_encodeStatus (h : value.IsProper) : (encodeStatus value).IsProper := by
  cases value with
  | status status => trivial
  | _ => exact h

/-- A proper error is written as a proper value. -/
theorem isProper_encodeFailure (h : value.IsProper) : (encodeFailure value).IsProper := by
  unfold encodeFailure
  split
  · trivial
  · have hKind : ((value.attribute? "error_type").getD .null).IsProper :=
      h.attributes.getD "error_type" trivial
    have hNames : ["type", "message"].Nodup := by decide
    exact ⟨hNames, hKind.orElse trivial, trivial, trivial⟩

/-- The mapping of metadata of proper values is proper. -/
theorem TaskMetadata.isProper_encode {metadata : TaskMetadata}
    (h : HaveProperValues metadata.toFields) : (Value.mapping metadata.encode).IsProper := by
  obtain ⟨hCount, -, -, hError, -⟩ := h
  exact ⟨metadata.nodup_names_encode, hCount, isProper_encodeMoment _, isProper_encodeMoment _,
    isProper_encodeFailure hError, isProper_encodeMoment _, isProper_encodeMoment _, trivial⟩

/-- The mapping of a proper record is proper. -/
theorem Task.isProper_encoded (h : task.IsProper) (hOptions : task.options = .filled options)
    {metadata : TaskMetadata} (hMetadata : task.metadata = .filled metadata) :
    (Value.mapping (task.encoded options)).IsProper := by
  have hOwn := h.options
  rw [hOptions] at hOwn
  have hParts := h.metadata
  rw [hMetadata] at hParts
  have hRecord : (Value.mapping task.metadata.metadataRecord.encode).IsProper := by
    rw [hMetadata]
    exact TaskMetadata.isProper_encode hParts
  exact ⟨task.nodup_names_encoded options, h.id, h.name, isProper_encodeStatus h.status,
    ⟨options.nodup_names_toFields, hOwn⟩, hRecord, trivial⟩

/-- What is written for a record is the text of the JSON value of its mapping. -/
theorem Task.write_eq_ok {metadata : TaskMetadata} {text : String}
    (hOptions : task.options = .filled options) (hMetadata : task.metadata = .filled metadata)
    (h : task.write = .ok text) :
    ∃ json : Json, (Value.mapping (task.encoded options)).toJson? = some json ∧
      json.isWritable = true ∧ text = json.toText := by
  rw [Task.write, Task.toJson, Task.encode?_eq hOptions (.inr ⟨metadata, hMetadata⟩)] at h
  simp only at h
  cases hJson : (Value.mapping (task.encoded options)).toJson? with
  | none =>
    rw [hJson] at h
    cases h
  | some json =>
    rw [hJson] at h
    simp only at h
    split at h
    · next hWritable => exact ⟨json, rfl, hWritable, (Except.ok.inj h).symm⟩
    · cases h

/-- **Texts.** A proper record that can be written is read back with its stamps. -/
theorem Task.exists_recall_write (h : task.IsStamped) (hProper : task.IsProper) {text : String}
    (hWrite : task.write = .ok text) :
    ∃ read, Task.read text = .ok read ∧ read.IsRecallOf task := by
  obtain ⟨options, hOptions, -⟩ := h.options
  obtain ⟨json, hJson, hWritable, rfl⟩ := Task.write_eq_ok hOptions h.metadata_eq hWrite
  have hEncoded := Task.isProper_encoded hProper hOptions h.metadata_eq
  have hKept := hEncoded.isKeptAs hJson hWritable
  obtain ⟨fields, hFields, hGet⟩ := hKept.of_mapping
  have hFieldsProper := hKept.isProper hEncoded
  rw [hFields] at hFieldsProper
  obtain ⟨s, hText⟩ := h.id
  have hId : Fields.get? fields "id" = some task.id := by
    have hEntry : Fields.get? (task.encoded options) "id" = some task.id := rfl
    obtain ⟨id, hFound, hSame⟩ := hGet "id" hEntry
    rw [hText] at hSame ⊢
    rw [hFound, hSame.eq_text]
  obtain ⟨read, hDecode, hRead⟩ := Task.exists_recall h hOptions hFieldsProper.2 hId
    (hGet "options" rfl) (hGet "metadata" rfl)
  refine ⟨read, ?_, hRead⟩
  rw [Task.read, Json.ofText_toText (json.isRegular_of_isProper
    (Value.isProper_of_toJson? _ hEncoded hJson) hWritable)]
  simp only [hFields, Task.decode, hDecode]

end write

end Crontab
