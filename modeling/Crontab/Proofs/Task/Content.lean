import Crontab.Proofs.Task.Alike

/-!
# The content of records

What callers see of a task is its mapping.  Records that tell the same have the same mapping, but for
what a text does not tell apart.

* `Task.trimmed` — a task without what a text of it leaves out;
* `SameContent` — tasks whose mappings agree;
* `Task.Alike.sameContent` — records that tell the same have the same content.
-/

namespace Crontab

open Time

/-! ## Mappings that agree -/

/-- A moment without an offset of less than a second; other values as they are. -/
def trimmedMoment : Value → Value
  | .moment moment => .moment moment.trimmed
  | value => value

/-- Metadata without what a text leaves out: offsets of less than a second, and that the kind of an
error has no name. -/
def TaskMetadata.trimmed (metadata : TaskMetadata) : TaskMetadata where
  runCount := metadata.runCount
  lastRun := trimmedMoment metadata.lastRun
  nextRun := trimmedMoment metadata.nextRun
  lastError := settledFailure metadata.lastError
  createdAt := trimmedMoment metadata.createdAt
  updatedAt := trimmedMoment metadata.updatedAt

/-- A task without what a text leaves out. -/
def Task.trimmed (task : Task) : Task :=
  match task.metadata with
  | .filled metadata => { task with metadata := .filled metadata.trimmed }
  | .other _ => task

/-- The mappings of the tasks agree. -/
def SameContent (task other : Task) : Prop :=
  ∃ a b : Json, task.toJson = .ok a ∧ other.toJson = .ok b ∧ a.Agrees b

/-! ## Moments and errors -/

section parts

variable {value other : Value}

/-- Of a recorded moment a text tells all but an offset of less than a second. -/
theorem settledMoment_of_isRecordedMoment (h : value.IsRecordedMoment) :
    settledMoment value = trimmedMoment value := by
  cases value with
  | moment m =>
    have hNaive : m.trimmed.isNaive = false := by
      unfold Moment.trimmed
      split
      · exact h.2
      · split
        · rfl
        · exact h.2
    rw [settledMoment, trimmedMoment, Moment.orOnClock, hNaive]
    rfl
  | _ => rfl

/-- Recorded moments of which the same is left have the same text without short offsets. -/
theorem encodeMoment_trimmedMoment (hValue : value.IsRecordedMoment)
    (hOther : other.IsRecordedMoment) (h : restoredMoment value = restoredMoment other) :
    encodeMoment (trimmedMoment value) = encodeMoment (trimmedMoment other) := by
  rw [← settledMoment_of_isRecordedMoment hValue, ← settledMoment_of_isRecordedMoment hOther,
    ← encodeMoment_restoredMoment, ← encodeMoment_restoredMoment, h]

/-- Recorded statuses of which the same is left are written alike. -/
theorem encodeStatus_congr (hValue : value.IsRecordedStatus) (hOther : other.IsRecordedStatus)
    (h : restoredStatus value = restoredStatus other) : encodeStatus value = encodeStatus other := by
  have hRead : ∀ {status : Value}, status.IsRecordedStatus →
      encodeStatus (restoredStatus status) = encodeStatus status := by
    intro status hStatus
    rw [encodeStatus_restoredStatus, orElse_of_isTruthy (isTruthy_encodeStatus hStatus)]
  rw [← hRead hValue, h, hRead hOther]

end parts

/-! ## The content of records -/

section content

variable {task other : Task}

/-- Recorded metadata that tell the same are written as mappings that agree. -/
theorem TaskMetadata.Alike.fieldsAlike {metadata other : TaskMetadata} (h : metadata.Alike other)
    (hFirst : metadata.IsRecorded) (hSecond : other.IsRecorded) :
    FieldsAlike metadata.trimmed.encode other.trimmed.encode := by
  have hLast := encodeMoment_trimmedMoment hFirst.lastRun hSecond.lastRun h.lastRun
  have hNext := encodeMoment_trimmedMoment hFirst.nextRun hSecond.nextRun h.nextRun
  have hError : encodeFailure (settledFailure metadata.lastError) =
      encodeFailure (settledFailure other.lastError) := by
    rw [← encodeFailure_restoredFailure (isStorableFailure_of_isPlainFailure hFirst.lastError),
      ← encodeFailure_restoredFailure (isStorableFailure_of_isPlainFailure hSecond.lastError),
      h.lastError]
  have hJson : (encodeFailure (settledFailure other.lastError)).IsJson := by
    rw [← encodeFailure_restoredFailure (isStorableFailure_of_isPlainFailure hSecond.lastError)]
    exact isJson_encodeFailure (isStorableFailure_restoredFailure
      (isStorableFailure_of_isPlainFailure hSecond.lastError))
  unfold TaskMetadata.encode TaskMetadata.trimmed
  rw [hLast, hNext, hError, h.createdAt, h.updatedAt]
  exact .cons ⟨rfl, h.runCount⟩
    (.cons ⟨rfl, (isJson_encodeMoment _).agrees⟩
      (.cons ⟨rfl, (isJson_encodeMoment _).agrees⟩
        (.cons ⟨rfl, hJson.agrees⟩
          (.cons ⟨rfl, (isJson_encodeMoment _).agrees⟩
            (.cons ⟨rfl, (isJson_encodeMoment _).agrees⟩ .nil)))))

/-- **Content.** Records that tell the same have the same content, but for what a text leaves out. -/
theorem Task.Alike.sameContent (h : task.Alike other) (hFirst : task.IsRecord)
    (hSecond : other.IsRecord) : SameContent task.trimmed other.trimmed := by
  obtain ⟨options, options', hOptions, hOptions', hOptionsAlike⟩ := h.options
  obtain ⟨metadata, metadata', hMetadata, hMetadata', hMetadataAlike⟩ := h.metadata
  obtain ⟨own, hOwn, hRecorded⟩ := hFirst.metadata
  obtain rfl := Slot.filled.inj (hMetadata.symm.trans hOwn)
  obtain ⟨own', hOwn', hRecorded'⟩ := hSecond.metadata
  obtain rfl := Slot.filled.inj (hMetadata'.symm.trans hOwn')
  have hTrimmed : ∀ {record : Task} {source : TaskMetadata}, record.metadata = .filled source →
      record.trimmed = { record with metadata := .filled source.trimmed } := by
    intro record source hSource
    rw [Task.trimmed, hSource]
  have hStatus := encodeStatus_congr hFirst.status hSecond.status h.status
  have hFields : FieldsAlike (task.trimmed.encoded options) (other.trimmed.encoded options') := by
    rw [hTrimmed hMetadata, hTrimmed hMetadata']
    refine .cons ⟨rfl, ?_⟩ (.cons ⟨rfl, ?_⟩ (.cons ⟨rfl, ?_⟩ (.cons ⟨rfl, ?_⟩
      (.cons ⟨rfl, ?_⟩ .nil))))
    · exact h.id ▸ hFirst.isStorable.id.agrees
    · exact h.name ▸ hFirst.isStorable.name.agrees
    · exact hStatus ▸ (isJson_encodeStatus hFirst.isStorable.status).agrees
    · exact Value.agrees_mapping hOptionsAlike options.nodup_names_toFields
    · exact Value.agrees_mapping (hMetadataAlike.fieldsAlike hRecorded hRecorded')
        metadata.trimmed.nodup_names_encode
  obtain ⟨a, b, hA, hB, hAgrees⟩ :=
    Value.agrees_mapping hFields (task.trimmed.nodup_names_encoded options)
  refine ⟨a, b, Task.toJson_eq (Task.encode?_eq ?_ (.inr ⟨metadata.trimmed, ?_⟩)) hA,
    Task.toJson_eq (Task.encode?_eq ?_ (.inr ⟨metadata'.trimmed, ?_⟩)) hB, hAgrees⟩
  · rw [hTrimmed hMetadata, hOptions]
  · rw [hTrimmed hMetadata]
  · rw [hTrimmed hMetadata', hOptions']
  · rw [hTrimmed hMetadata']

/-- If tasks have the same content, what their mappings have under a name agrees. -/
theorem SameContent.metadata_agrees (h : SameContent task other) (name : String)
    (hTask : task.IsStorable) (hOther : other.IsStorable) {value : Value}
    (hValue : Fields.get? task.metadata.metadataRecord.encode name = some value) :
    ∃ found, Fields.get? other.metadata.metadataRecord.encode name = some found ∧
      value.Agrees found := by
  obtain ⟨a, b, hA, hB, hAgrees⟩ := h
  obtain ⟨options, hOptions, -⟩ := hTask.options
  obtain ⟨options', hOptions', -⟩ := hOther.options
  have hFields : (Value.mapping (task.encoded options)).Agrees
      (.mapping (other.encoded options')) := by
    obtain ⟨json, -, hJson⟩ := Task.isJson_encoded hTask hOptions
    obtain ⟨json', -, hJson'⟩ := Task.isJson_encoded hOther hOptions'
    rw [Task.toJson_eq (Task.encode?_eq hOptions hTask.filled) hJson] at hA
    rw [Task.toJson_eq (Task.encode?_eq hOptions' hOther.filled) hJson'] at hB
    exact ⟨json, json', hJson, hJson', Except.ok.inj hA ▸ Except.ok.inj hB ▸ hAgrees⟩
  obtain ⟨fields, hSame, hFound⟩ := hFields.of_mapping
  obtain rfl := Value.mapping.inj hSame
  obtain ⟨metadata, hMetadata, hAgreesMetadata⟩ := hFound "metadata" rfl
  obtain rfl := Option.some.inj hMetadata
  obtain ⟨parts, hParts, hFoundPart⟩ := hAgreesMetadata.of_mapping
  obtain rfl := Value.mapping.inj hParts
  exact hFoundPart name hValue

end content

end Crontab
