import Crontab.Proofs.Task.Alike
import Crontab.Store.Database

/-!
# Rows of records

A JSON column keeps an older value that is equal to the one that is written, so a row need not hold
the values of its record, but it holds values that agree with them.  That is enough to read a record
from it that tells the same.

* `Row.Tells` — the rows from which a record can be read;
* `Row.Tells.exists_record` — what is read from them;
* `tells_taskRow`, `Row.Tells.overwritten` — rows that are written, and rows that are written over.
-/

namespace Crontab

open Time

/-! ## Columns that agree with options -/

/-- What agrees with the mapping of options is read as options that agree. -/
theorem optionsFields_of_agrees {options : TaskOptions} {value : Value}
    (h : (Value.mapping options.toFields).Agrees value) (hJson : value.IsJson) :
    ∃ fields, optionsFields value = .ok fields ∧ options.Alike (TaskOptions.ofFields fields) ∧
      (TaskOptions.ofFields fields).AreJson := by
  obtain ⟨fields, rfl, hFields⟩ := h.of_mapping
  have hAgrees : ∀ (name : String) {own : Value}, Fields.get? options.toFields name = some own →
      own.Agrees ((Fields.get? fields name).getD .null) := by
    intro name own hOwn
    obtain ⟨found, hFound, hSame⟩ := hFields name hOwn
    rw [hFound]
    exact hSame
  have hJsons : ∀ name, ((Fields.get? fields name).getD .null).IsJson := by
    intro name
    cases hFound : Fields.get? fields name with
    | none => exact .null
    | some found => exact hJson.get? hFound
  have hExpression : Fields.has fields "expression" = true := by
    obtain ⟨found, hFound, -⟩ := hFields "expression" rfl
    rw [Fields.has, hFound]
    rfl
  refine ⟨fields, by rw [optionsFields, if_pos hExpression], TaskOptions.alike_iff.2
    ⟨hAgrees "expression" rfl, hAgrees "timezone" rfl,
      hAgrees "max_retries" rfl, hAgrees "retry_delay" rfl,
      hAgrees "timeout" rfl, hAgrees "exclusive" rfl,
      hAgrees "catch_up" rfl⟩, ?_⟩
  unfold TaskOptions.AreJson TaskOptions.toFields
  simp only [List.forall_mem_cons]
  exact ⟨hJsons "expression", hJsons "timezone", hJsons "max_retries", hJsons "retry_delay",
    hJsons "timeout", hJsons "exclusive", hJsons "catch_up", List.forall_mem_nil _⟩

/-! ## Columns that agree with metadata -/

section metadata

variable {value found : Value}

/-- What agrees with the text of a moment is that text. -/
theorem eq_encodeMoment_of_agrees (h : (encodeMoment value).Agrees found) :
    found = encodeMoment value := by
  cases value with
  | moment m => exact h.eq_text
  | _ => exact h.eq_null

/-- What agrees with the mapping of an error is read as what is left of the error. -/
theorem decodeFailure_of_agrees (hValue : value.IsPlainFailure)
    (h : (encodeFailure value).Agrees found) : decodeFailure found = restoredFailure value := by
  cases hNull : value.isNull with
  | true =>
    rw [encodeFailure, if_pos hNull] at h
    rw [h.eq_null, restoredFailure, if_pos hNull]
    rfl
  | false =>
    obtain ⟨kind, hKind⟩ := exists_failureKind_eq_text hValue hNull
    rw [encodeFailure, if_neg (Bool.eq_false_iff.1 hNull), hKind] at h
    obtain ⟨fields, rfl, hFields⟩ := h.of_mapping
    obtain ⟨type, hType, hSameType⟩ := hFields "type" rfl
    obtain ⟨message, hMessage, hSameMessage⟩ := hFields "message" rfl
    obtain rfl := hSameType.eq_text
    obtain rfl := hSameMessage.eq_text
    rw [decodeFailure, hType, hMessage, restoredFailure_of_ne_null hNull, hKind]
    rfl

/-- What agrees with the mapping of metadata is read as metadata that tell the same. -/
theorem TaskMetadata.decode_of_agrees {metadata : TaskMetadata} (h : metadata.IsRecorded)
    (hAgrees : (Value.mapping metadata.encode).Agrees value) (hJson : value.IsJson) :
    ∃ fields decoded, metadataFields value = .ok fields ∧
      TaskMetadata.decode fields = .ok decoded ∧ metadata.Alike decoded ∧ decoded.IsRecorded := by
  obtain ⟨fields, rfl, hFields⟩ := hAgrees.of_mapping
  obtain ⟨count, hCount, hSameCount⟩ := hFields "run_count" rfl
  obtain ⟨last, hLast, hSameLast⟩ := hFields "last_run" rfl
  obtain ⟨next, hNext, hSameNext⟩ := hFields "next_run" rfl
  obtain ⟨error, hError, hSameError⟩ := hFields "last_error" rfl
  obtain ⟨created, hCreated, hSameCreated⟩ := hFields "created_at" rfl
  obtain ⟨updated, hUpdated, hSameUpdated⟩ := hFields "updated_at" rfl
  obtain rfl := eq_encodeMoment_of_agrees hSameLast
  obtain rfl := eq_encodeMoment_of_agrees hSameNext
  obtain rfl := eq_encodeMoment_of_agrees hSameCreated
  obtain rfl := eq_encodeMoment_of_agrees hSameUpdated
  have hDecode : TaskMetadata.decode fields =
      .ok { metadata.restored with runCount := count } := by
    rw [TaskMetadata.decode_eq_ok h.isStorable.moments hCount hLast hNext hError hCreated hUpdated,
      decodeFailure_of_agrees h.lastError hSameError]
    rfl
  exact ⟨fields, _, rfl, hDecode, { h.alike_restored with runCount := hSameCount },
    { h.restored with runCount := hJson.get? hCount }⟩

end metadata

/-! ## Rows that tell a record -/

/-- The row has the identifier, the name and the status of the task, and columns that agree with its
options and its metadata. -/
structure Row.Tells (row : Row) (task : Task) : Prop where
  id : row.id.toValue = task.id
  name : row.name.toValue = task.name
  status : row.status.toValue = encodeStatus task.status
  options : ∃ options, task.options = .filled options ∧
    (Value.mapping options.toFields).Agrees row.options.toValue
  metadata : ∃ metadata, task.metadata = .filled metadata ∧
    (Value.mapping metadata.encode).Agrees row.metadata.toValue
  regularOptions : row.options.IsRegular
  regularMetadata : row.metadata.IsRegular

section rows

variable {row old : Row} {task : Task}

/-- **Rows.** A record that tells the same as the task is read from a row that tells it. -/
theorem Row.Tells.exists_record (h : row.Tells task) (hTask : task.IsRecord) :
    ∃ record, rowTask row = .ok record ∧ task.Alike record ∧ record.IsRecord := by
  obtain ⟨options, hOptions, hAgrees⟩ := h.options
  obtain ⟨fields, hFields, hAlike, hJson⟩ :=
    optionsFields_of_agrees hAgrees ⟨_, h.regularOptions, rfl⟩
  obtain ⟨metadata, hMetadata, hAgrees⟩ := h.metadata
  obtain ⟨own, hOwn, hRecorded⟩ := hTask.metadata
  obtain rfl := Slot.filled.inj (hMetadata.symm.trans hOwn)
  obtain ⟨parts, decoded, hParts, hDecode, hAlikeMetadata, hDecoded⟩ :=
    TaskMetadata.decode_of_agrees hRecorded hAgrees ⟨_, h.regularMetadata, rfl⟩
  have hDecodeFields : Task.decodeFields row.toFields =
      .ok
        { id := task.id
          name := task.name
          status := restoredStatus task.status
          execute := .null
          options := .filled (TaskOptions.ofFields fields)
          metadata := .filled decoded } := by
    rw [restoredStatus, ← h.id, ← h.name, ← h.status]
    exact Task.decodeFields_eq_ok rfl rfl hFields hParts hDecode
  refine ⟨_, by rw [rowTask, hDecodeFields]; rfl, ?_, ?_⟩
  · exact
      { id := rfl
        name := rfl
        status := (restoredStatus_restoredStatus _).symm
        options := ⟨options, _, hOptions, rfl, hAlike⟩
        metadata := ⟨metadata, decoded, hMetadata, rfl, hAlikeMetadata⟩ }
  · exact
      { id := hTask.id
        name := hTask.name
        status := isRecordedStatus_restoredStatus hTask.status
        options := ⟨_, rfl, hJson⟩
        metadata := ⟨decoded, rfl, hDecoded⟩ }

/-- The options of what is read from a row are those in its column. -/
theorem options_of_rowTask {record : Task} {fields : Fields Value} (h : rowTask row = .ok record)
    (hFields : row.options.toValue = .mapping fields) :
    record.options = .filled (TaskOptions.ofFields fields) := by
  have hRead : Task.decodeFields row.toFields = .ok record := mapError_eq_ok.1 h
  have hGet : (Fields.get? row.toFields "options").getD .null = .mapping fields := hFields
  unfold Task.decodeFields at hRead
  simp only [hGet, bind_eq_ok] at hRead
  obtain ⟨own, hOwn, _, -, _, -, hRead⟩ := hRead
  obtain rfl := Except.ok.inj hRead
  rw [optionsFields] at hOwn
  split at hOwn
  · rw [Except.ok.inj hOwn]
  · cases hOwn

/-! ## Rows that are written -/

/-- A regular JSON value is kept in a JSON column as it is. -/
theorem jsonColumn_toValue {json : Json} (h : json.IsRegular) :
    Row.jsonColumn json.toValue = .ok json := by
  rw [Row.jsonColumn, json.toJson?_toValue]
  exact if_pos (json.isWritable_of_isRegular h)

/-- The row of texts and values of JSON texts. -/
theorem ofColumns_texts (key id name status : String) {options metadata : Json}
    (hOptions : options.IsRegular) (hMetadata : metadata.IsRegular) :
    Row.ofColumns key (.text id) (.text name) (.text status) options.toValue metadata.toValue =
      .ok ⟨key, .text id, .text name, .text status, options, metadata⟩ := by
  rw [Row.ofColumns, jsonColumn_toValue hOptions, jsonColumn_toValue hMetadata]
  rfl

/-- A recorded status is written as a text. -/
theorem exists_encodeStatus_eq_text {status : Value} (h : status.IsRecordedStatus) :
    ∃ s, encodeStatus status = .text s := by
  cases status with
  | status s => exact ⟨s.name, rfl⟩
  | text s => exact ⟨s, rfl⟩
  | _ => exact h.elim

/-- A record is written as a row that tells it, under the key of its identifier and with its options
as they are. -/
theorem tells_taskRow (hTask : task.IsRecord) (start : String) :
    ∃ row, taskRow (.text start) task = .ok row ∧ row.key = storeKey (.text start) task.id ∧
      row.Tells task ∧ ∀ options, task.options = .filled options →
        row.options.toValue = .mapping options.toFields := by
  obtain ⟨id, hId⟩ := hTask.id
  obtain ⟨name, hName⟩ := hTask.name
  obtain ⟨status, hStatus⟩ := exists_encodeStatus_eq_text hTask.status
  obtain ⟨options, hOptions, hJson⟩ := hTask.options
  obtain ⟨metadata, hMetadata, hRecorded⟩ := hTask.metadata
  have hOptionsJson : (Value.mapping options.toFields).IsJson :=
    .mapping options.nodup_names_toFields hJson
  have hMetadataJson := TaskMetadata.isJson_encode hRecorded.isStorable
  obtain ⟨first, hFirst, hFirstValue⟩ := hOptionsJson
  obtain ⟨second, hSecond, hSecondValue⟩ := hMetadataJson
  have hEncoded : task.encode? = some
      [("id", .text id), ("name", .text name), ("status", .text status),
       ("options", first.toValue), ("metadata", second.toValue)] := by
    rw [Task.encode?_eq hOptions (.inr ⟨metadata, hMetadata⟩), Task.encoded, hId, hName, hStatus,
      hMetadata, hFirstValue, hSecondValue]
    rfl
  refine ⟨⟨storeKey (.text start) task.id, .text id, .text name, .text status, first, second⟩, ?_,
    rfl, ?_, ?_⟩
  · rw [taskRow, hEncoded]
    exact congrArg (Except.mapError StoreError.table)
      (ofColumns_texts (storeKey (.text start) task.id) id name status hFirst hSecond)
  · exact
      { id := hId.symm
        name := hName.symm
        status := hStatus.symm
        options := ⟨options, hOptions, first, first, hFirstValue, rfl, .refl first hFirst⟩
        metadata := ⟨metadata, hMetadata, second, second, hSecondValue, rfl, .refl second hSecond⟩
        regularOptions := hFirst
        regularMetadata := hSecond }
  · intro own hOwn
    obtain rfl := Slot.filled.inj (hOptions.symm.trans hOwn)
    exact hFirstValue

/-! ## Rows that are written over -/

/-- What a column keeps agrees with what is written. -/
theorem agrees_keep {old new : Json} (h : new.IsRegular) : new.Agrees (Row.keep old new) := by
  unfold Row.keep
  split
  · next hEquals => exact Json.agrees_of_equals new hEquals
  · exact .refl new h

/-- What is kept of regular JSON values is regular. -/
theorem isRegular_keep {old new : Json} (hOld : old.IsRegular) (hNew : new.IsRegular) :
    (Row.keep old new).IsRegular := by
  unfold Row.keep
  split
  · exact hOld
  · exact hNew

/-- What is kept of a value agrees with it, even if it is an equal one that was there before. -/
theorem agrees_keep_toValue {value : Value} {old new : Json} (h : value.Agrees new.toValue)
    (hNew : new.IsRegular) : value.Agrees (Row.keep old new).toValue :=
  h.trans ⟨new, _, rfl, rfl, agrees_keep hNew⟩

/-- A row that is written over another one still tells its record. -/
theorem Row.Tells.overwritten (h : row.Tells task) (hOptions : old.options.IsRegular)
    (hMetadata : old.metadata.IsRegular) : (old.overwritten row).Tells task where
  id := h.id
  name := h.name
  status := h.status
  options := by
    obtain ⟨options, hFilled, hAgrees⟩ := h.options
    exact ⟨options, hFilled, agrees_keep_toValue hAgrees h.regularOptions⟩
  metadata := by
    obtain ⟨metadata, hFilled, hAgrees⟩ := h.metadata
    exact ⟨metadata, hFilled, agrees_keep_toValue hAgrees h.regularMetadata⟩
  regularOptions := isRegular_keep hOptions h.regularOptions
  regularMetadata := isRegular_keep hMetadata h.regularMetadata

end rows

end Crontab
