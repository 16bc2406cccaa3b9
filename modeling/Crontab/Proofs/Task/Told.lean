import Crontab.Proofs.Json.Limits
import Crontab.Proofs.Task.Content
import Crontab.Proofs.Task.Recall

/-!
# Tasks that texts tell

Any text may stand under the key of a record, and any value may come with an update.  What is read from
the text has its parts all the same, and so has what an update makes of it.  If that has a text, what
is read from the text has the same mapping, but for what a text leaves out.

* `Task.IsTold` — tasks with all their parts, and moments on known clocks;
* `Task.isTold_of_read`, `Task.isTold_create`, `Task.IsTold.update` — what is read, what is made of a
  new task, and what updates make of them;
* `Task.IsTold.exists_read` — what is written for such a task is read with the same mapping.
-/

namespace Crontab

open Time

/-! ## Tasks that texts tell -/

/-- The runs are told on known clocks, and the creation and the last update on clocks of fixed
offsets. -/
structure TaskMetadata.IsTimed (metadata : TaskMetadata) : Prop where
  lastRun : metadata.lastRun.IsRecordedMoment
  nextRun : metadata.nextRun.IsRecordedMoment
  createdAt : metadata.createdAt.IsFixedMoment
  updatedAt : metadata.updatedAt.IsFixedMoment

/-- The task has proper parts, a status among them, the identifier is one that a JSON text holds, and the
moments are told on known clocks. -/
structure Task.IsTold (task : Task) : Prop where
  proper : task.IsProper
  id : ∃ json : Json, task.id = json.toValue
  status : task.status.isTruthy = true
  options : ∃ options, task.options = .filled options
  metadata : ∃ metadata, task.metadata = .filled metadata ∧ metadata.IsTimed

/-- A task that was told can be updated. -/
theorem Task.IsTold.isUpdatable {task : Task} (h : task.IsTold) : task.IsUpdatable := by
  obtain ⟨metadata, hMetadata, hTimed⟩ := h.metadata
  exact ⟨h.options, metadata, hMetadata, hTimed.updatedAt⟩

/-! ## What is read -/

section reading

open Value

variable {task : Task} {value : Value} {fields : Fields Value}

/-- A written offset is the one of a clock, and less than a day. -/
theorem clock_of_clockOfOffset {offset? : Option Int} {clock : Clock}
    (h : clockOfOffset offset? = .ok clock) :
    clock = .naive ∨ ∃ offset name, clock = .fixed offset name ∧ offset.natAbs < day := by
  cases offset? with
  | none => exact .inl (Except.ok.inj h).symm
  | some offset =>
    rw [clockOfOffset] at h
    split at h
    · exact .inr ⟨0, some "UTC", (Except.ok.inj h).symm, by decide⟩
    · split at h
      · next hDay => exact .inr ⟨offset, none, (Except.ok.inj h).symm, hDay⟩
      · cases h

/-- A moment that is read from a text is naive or on the clock of a fixed offset. -/
theorem clock_of_ofIso {text : List Char} {moment : Moment} (h : Moment.ofIso text = .ok moment) :
    moment.clock = .naive ∨
      ∃ offset name, moment.clock = .fixed offset name ∧ offset.natAbs < day := by
  rw [Moment.ofIso, Moment.ofIsoChars] at h
  split at h
  · cases h
  · simp only [bind_eq_ok] at h
    obtain ⟨clock, hClock, number, -, timeOfDay, -, h⟩ := h
    split at h
    · obtain rfl := Except.ok.inj h
      exact clock_of_clockOfOffset hClock
    · cases h

/-- The moments that are read are on clocks of fixed offsets, because naive ones are read in universal
time. -/
theorem isFixedMoment_decodeMoment {moment : Value} (h : decodeMoment value = .ok moment) :
    moment.IsFixedMoment := by
  rw [decodeMoment] at h
  split at h
  · obtain rfl := Except.ok.inj h
    trivial
  · split at h
    · obtain rfl := Except.ok.inj h
      trivial
    · split at h
      · next own hOwn =>
        obtain rfl := Except.ok.inj h
        rcases clock_of_ofIso hOwn with hNaive | ⟨offset, name, hFixed, hOffset⟩
        · refine ⟨0, some "UTC", ?_, by decide⟩
          rw [Moment.orOnClock, Moment.isNaive, hNaive]
          rfl
        · refine ⟨offset, name, ?_, hOffset⟩
          rw [Moment.orOnClock, Moment.isNaive, hFixed]
          exact hFixed
      · cases h

/-- Metadata that are read from proper fields are proper, with their moments on known clocks. -/
theorem TaskMetadata.isTimed_decode {metadata : TaskMetadata} (hFields : HaveProperValues fields)
    (h : TaskMetadata.decode fields = .ok metadata) :
    metadata.IsTimed ∧ HaveProperValues metadata.toFields := by
  simp only [TaskMetadata.decode, bind_eq_ok] at h
  obtain ⟨last, hLast, next, hNext, created, hCreated, updated, hUpdated, h⟩ := h
  obtain rfl := Except.ok.inj h
  have hRecorded : ∀ {value moment : Value}, decodeMoment value = .ok moment →
      moment.IsRecordedMoment := fun hDecode =>
    isRecordedMoment_of_isFixedMoment (isFixedMoment_decodeMoment hDecode)
  have hProper : ∀ {value moment : Value}, decodeMoment value = .ok moment → moment.IsProper :=
    fun hDecode => isProper_of_isRecordedMoment (hRecorded hDecode)
  refine ⟨⟨hRecorded hLast, hRecorded hNext, isFixedMoment_decodeMoment hCreated,
    isFixedMoment_decodeMoment hUpdated⟩, ?_⟩
  exact ⟨hFields.getD _ trivial, hProper hLast, hProper hNext,
    isProper_decodeFailure (hFields.getD _ trivial), hProper hCreated, hProper hUpdated, trivial⟩

/-- A status is read as an empty one only if it is empty. -/
theorem isTruthy_decodeStatus (value : Value) :
    (decodeStatus value).isTruthy = value.isTruthy := by
  rw [← isTruthy_encodeStatus_eq, encodeStatus_decodeStatus, isTruthy_encodeStatus_eq]

/-- The fields that options are read from are proper. -/
theorem haveProperValues_of_optionsFields (h : value.IsProper)
    (hFields : optionsFields value = .ok fields) : HaveProperValues fields := by
  unfold optionsFields at hFields
  split at hFields
  · split at hFields
    · obtain rfl := Except.ok.inj hFields
      exact h.2
    · cases hFields
  · cases hFields

/-- The fields that metadata are read from are proper. -/
theorem haveProperValues_of_metadataFields (h : value.IsProper)
    (hFields : metadataFields value = .ok fields) : HaveProperValues fields := by
  unfold metadataFields at hFields
  split at hFields
  · obtain rfl := Except.ok.inj hFields
    trivial
  · obtain rfl := Except.ok.inj hFields
    exact h.2
  · cases hFields

/-- A task that is read from the fields of a JSON text is told. -/
theorem Task.isTold_decodeFields {jsons : List (String × Json)} (hJsons : Json.HasRegularFields jsons)
    (h : Task.decodeFields (Json.fieldsToValues jsons) = .ok task) : task.IsTold := by
  have hFields := Json.haveProperValues_of_hasRegularFields jsons hJsons
  have hGiven : ∀ name, ((Fields.get? (Json.fieldsToValues jsons) name).getD .null).IsProper :=
    fun name => hFields.getD name trivial
  simp only [Task.decodeFields, bind_eq_ok] at h
  obtain ⟨options, hOptions, parts, hParts, metadata, hMetadata, h⟩ := h
  obtain rfl := Except.ok.inj h
  obtain ⟨hTimed, hMetadataProper⟩ := TaskMetadata.isTimed_decode
    (haveProperValues_of_metadataFields (hGiven "metadata") hParts) hMetadata
  have hDefault : HaveProperValues (TaskOptions.toFields { expression := .null }) :=
    ⟨trivial, trivial, trivial, trivial, trivial, trivial, trivial, trivial⟩
  exact
    { proper :=
        { id := hGiven "id"
          name := hFields.getD _ trivial
          status := isProper_decodeStatus ((hGiven "status").orElse trivial)
          execute := trivial
          options := TaskOptions.haveProperValues_replaced hDefault
            (haveProperValues_of_optionsFields (hGiven "options") hOptions)
          metadata := hMetadataProper }
      id := by
        refine ⟨(Fields.get? jsons "id").getD .null, ?_⟩
        rw [Json.get?_fieldsToValues]
        cases Fields.get? jsons "id" <;> rfl
      status := by
        rw [isTruthy_decodeStatus]
        exact isTruthy_orElse _ (by decide)
      options := ⟨_, rfl⟩
      metadata := ⟨metadata, rfl, hTimed⟩ }

/-- **Reading.** What is read from a text has all its parts. -/
theorem Task.isTold_of_read {text : String} (h : Task.read text = .ok task) : task.IsTold := by
  obtain ⟨json, hJson, hDecode⟩ := Task.read_eq_ok_iff.1 h
  have hRegular := Json.isRegular_of_ofText hJson
  cases json with
  | object jsons => exact Task.isTold_decodeFields hRegular.2 hDecode
  | _ => cases hDecode

end reading

/-! ## New tasks and updates -/

section update

variable {task record : Task} {updates : Value} {wall : Wall}

/-- **Creation.** What is made of a proper task has all its parts. -/
theorem Task.isTold_create {issuer : Issuer} (hId : task.id = .null ∨ ∃ s, task.id = .text s)
    (hProper : task.IsProper)
    (hCreate : (task.create .null (.universal wall) issuer).1 = .ok record) : record.IsTold := by
  obtain ⟨hStamped, -⟩ := Task.isStamped_create hId hProper hCreate
  obtain ⟨s, hText⟩ := hStamped.id
  obtain ⟨options, hOptions, -⟩ := hStamped.options
  obtain ⟨metadata, hMetadata, hOwn⟩ := hStamped.metadata
  obtain ⟨created, updated, hCreated, hUpdated, -⟩ := hOwn.stamps
  have hStatus : record.status.isTruthy = true := by
    obtain ⟨_, _, -, -, rfl⟩ := Task.create_eq_ok hCreate
    exact isTruthy_orElse _ (by decide)
  exact
    { proper := hProper.create hCreate
      id := ⟨.text s, hText⟩
      status := hStatus
      options := ⟨options, hOptions⟩
      metadata := ⟨metadata, hMetadata,
        { lastRun := hOwn.lastRun
          nextRun := hOwn.nextRun
          createdAt := isFixedMoment_of_isUniversalMoment ⟨created, hCreated⟩
          updatedAt := isFixedMoment_of_isUniversalMoment ⟨updated, hUpdated⟩ }⟩ }

/-- The moments of updated metadata are on known clocks. -/
theorem TaskMetadata.IsTimed.update {metadata updated : TaskMetadata} {given : Value}
    (h : metadata.IsTimed) (hGiven : given.IsProper)
    (hUpdate : updateMetadata (.filled metadata) given (.universal wall) = .ok updated) :
    updated.IsTimed := by
  obtain ⟨fields, hFields, hUpdated⟩ := updateMetadata_eq_ok hUpdate
  have hOffset := hasProperOffset_updateFields hFields hGiven
  obtain ⟨moment, hMoment, rfl⟩ := TaskMetadata.updated_eq_ok hUpdated
  exact
    { lastRun := isRecordedMoment_updateMoment (hOffset _) h.lastRun
      nextRun := isRecordedMoment_updateMoment (hOffset _) h.nextRun
      createdAt := h.createdAt
      updatedAt := isFixedMoment_advance h.updatedAt hMoment }

/-- A status that is given stays so when it is updated. -/
theorem isTruthy_updateStatus {given : Option Value} {stored status : Value}
    (h : stored.isTruthy = true) (hUpdate : updateStatus given stored = .ok status) :
    status.isTruthy = true := by
  rcases updateStatus_eq_ok hUpdate with rfl | ⟨token, rfl⟩
  · exact h
  · rfl

/-- **Updates.** What a proper update makes of a task with all its parts has all its parts. -/
theorem Task.IsTold.update (h : task.IsTold) (hUpdates : updates.IsProper)
    (hUpdate : task.update updates (.universal wall) = .ok record) : record.IsTold := by
  have hProper := h.proper.update h.isUpdatable hUpdates hUpdate
  obtain ⟨options, hOptions⟩ := h.options
  obtain ⟨metadata, hMetadata, hTimed⟩ := h.metadata
  obtain ⟨fields, status, slot, updated, rfl, hStatus, hSlot, hUpdated, rfl⟩ :=
    Task.update_eq_ok hOptions hMetadata hUpdate
  have hPart : ((Fields.get? fields "metadata").getD .null).IsProper :=
    hUpdates.2.getD "metadata" trivial
  refine ⟨hProper, h.id, isTruthy_updateStatus h.status hStatus, ?_, updated, rfl,
    hTimed.update hPart hUpdated⟩
  rcases updateOptions_eq_ok hSlot with rfl | ⟨given, -, rfl⟩
  · exact ⟨options, rfl⟩
  · exact ⟨_, rfl⟩

end update

/-! ## Values with the same JSON value -/

/-- The values have a JSON value, and have it in common. -/
def Value.SameJson (value other : Value) : Prop :=
  ∃ json : Json, value.toJson? = some json ∧ other.toJson? = some json

section same

open Value

variable {value other : Value} {json : Json} {fields others : Fields Value}
  {jsons : List (String × Json)}

/-- Mappings whose values have the same JSON values have the same JSON value. -/
theorem Value.SameJson.mapping
    (h : List.Forall₂ (fun field other => field.1 = other.1 ∧ field.2.SameJson other.2) fields
      others) : (Value.mapping fields).SameJson (.mapping others) := by
  have hFields : ∃ jsons, fieldsToJson? fields = some jsons ∧ fieldsToJson? others = some jsons := by
    induction h with
    | nil => exact ⟨[], rfl, rfl⟩
    | @cons field other fields others hField _ ih =>
      obtain ⟨name, value⟩ := field
      obtain ⟨_, otherValue⟩ := other
      obtain ⟨rfl, json, hValue, hOther⟩ := hField
      obtain ⟨jsons, hFields, hOthers⟩ := ih
      refine ⟨(name, json) :: jsons, ?_, ?_⟩
      · rw [fieldsToJson?, hValue, hFields]
        rfl
      · rw [fieldsToJson?, hOther, hOthers]
        rfl
  obtain ⟨jsons, hFirst, hSecond⟩ := hFields
  exact ⟨.object jsons, by rw [Value.toJson?, hFirst]; rfl, by rw [Value.toJson?, hSecond]; rfl⟩

theorem Value.SameJson.text (s : String) : (Value.text s).SameJson (.text s) :=
  ⟨.text s, rfl, rfl⟩

/-- The value of the JSON value of a value has that JSON value. -/
theorem sameJson_toValue (h : value.toJson? = some json) : json.toValue.SameJson value :=
  ⟨json, json.toJson?_toValue, h⟩

/-- A text takes the place of a value and of that of its JSON value alike. -/
theorem sameJson_orElse (h : value.toJson? = some json) (s : String) :
    (json.toValue.orElse (.text s)).SameJson (value.orElse (.text s)) := by
  rw [Value.orElse, Value.orElse, isTruthy_of_toJson? h]
  split
  · exact sameJson_toValue h
  · exact .text s

/-- What is written of a field is read under its name. -/
theorem get?_written (h : fieldsToJson? fields = some jsons) (name : String)
    (hValue : Fields.get? fields name = some value) :
    ∃ json, value.toJson? = some json ∧
      Fields.get? (Json.fieldsToValues jsons) name = some json.toValue := by
  obtain ⟨json, hJson, hGet⟩ := get?_of_fieldsToJson? h hValue
  exact ⟨json, hJson, (Json.get?_fieldsToValues jsons name).trans (congrArg _ hGet)⟩

/-- A field of the JSON values of fields has the JSON value of the field. -/
theorem sameJson_getD {name : String} (h : fieldsToJson? fields = some jsons)
    (hValue : Fields.get? fields name = some value) :
    ((Fields.get? (Json.fieldsToValues jsons) name).getD other).SameJson value := by
  obtain ⟨json, hJson, hGet⟩ := get?_written h name hValue
  rw [hGet]
  exact sameJson_toValue hJson

end same

/-! ## What is read for a written task -/

section written

open Value

variable {value error : Value} {json : Json} {jsons : List (String × Json)}

/-- The value of a JSON value is written as itself. -/
theorem encodeStatus_toValue (json : Json) : encodeStatus json.toValue = json.toValue := by
  cases json <;> rfl

/-- What is read for a written status is written as the status itself. -/
theorem sameJson_decodeStatus {status : Value} (hStatus : status.isTruthy = true)
    (h : (encodeStatus status).toJson? = some json) (pending : Value) :
    (encodeStatus (decodeStatus (json.toValue.orElse pending))).SameJson (encodeStatus status) := by
  have hTruthy : json.toValue.isTruthy = true := by
    rw [isTruthy_of_toJson? h, isTruthy_encodeStatus_eq, hStatus]
  rw [encodeStatus_decodeStatus, orElse_of_isTruthy hTruthy, encodeStatus_toValue]
  exact sameJson_toValue h

/-- A written moment is the value of its JSON value. -/
theorem toValue_of_encodeMoment (h : (encodeMoment value).toJson? = some json) :
    json.toValue = encodeMoment value := by
  cases value with
  | moment m =>
    obtain rfl := Option.some.inj h
    rfl
  | _ =>
    obtain rfl := Option.some.inj h
    rfl

/-- What is left of a recorded moment is written like the moment without a short offset. -/
theorem sameJson_restoredMoment (h : value.IsRecordedMoment) :
    (encodeMoment (restoredMoment value)).SameJson (encodeMoment (trimmedMoment value)) := by
  rw [encodeMoment_restoredMoment, settledMoment_of_isRecordedMoment h]
  obtain ⟨json, -, hJson⟩ := isJson_encodeMoment (trimmedMoment value)
  rw [← hJson]
  exact sameJson_toValue json.toJson?_toValue

/-- Every kind of errors has a name, but for general ones. -/
theorem isEmpty_kindName (h : ∀ kind message, error ≠ .failure kind message) :
    error.kindName.isEmpty = false := by
  cases error with
  | failure kind message => exact absurd rfl (h kind message)
  | entity shape given => cases shape <;> rfl
  | _ => rfl

/-- A text tells the kind of an error, or `Error` if it has no name. -/
theorem failureKind_settledFailure (error : Value) :
    failureKind (settledFailure error) = (failureKind error).orElse (.text "Error") := by
  by_cases hFailure : ∃ kind message, error = .failure kind message
  · obtain ⟨kind, message, rfl⟩ := hFailure
    rw [settledFailure, failureKind_failure, failureKind_failure, Value.orElse, Value.isTruthy]
    cases kind.isEmpty <;> rfl
  · have hNot : ∀ kind message, error ≠ .failure kind message :=
      fun kind message hError => hFailure ⟨kind, message, hError⟩
    have hName : (Value.text error.kindName).isTruthy = true := by
      rw [Value.isTruthy, isEmpty_kindName hNot]
      rfl
    rw [settledFailure.eq_def]
    split
    · exact absurd rfl (hNot _ _)
    · exact (orElse_of_isTruthy (isTruthy_orElse _ hName) _).symm

/-- A text tells the message of an error. -/
theorem plain_settledFailure (error : Value) : (settledFailure error).plain = error.plain := by
  cases error with
  | failure kind message =>
    rw [settledFailure, Value.plain, Value.plain]
    by_cases hEmpty : kind.isEmpty = true
    · rw [String.isEmpty_iff.1 hEmpty]
      rfl
    · rw [if_neg hEmpty]
  | _ => rfl

/-- A text tells whether there is an error. -/
theorem isNull_settledFailure (error : Value) : (settledFailure error).isNull = error.isNull := by
  cases error <;> rfl

/-- What is read for a written error is written as the error itself, but for a kind without a name. -/
theorem sameJson_decodeFailure (h : (encodeFailure error).toJson? = some json) :
    (encodeFailure (decodeFailure json.toValue)).SameJson (encodeFailure (settledFailure error)) := by
  rw [encodeFailure.eq_def (settledFailure error), isNull_settledFailure]
  cases hNull : error.isNull with
  | true =>
    rw [encodeFailure, if_pos hNull] at h
    obtain rfl := Option.some.inj h
    exact ⟨.null, rfl, rfl⟩
  | false =>
    rw [encodeFailure, hNull, if_neg Bool.false_ne_true] at h
    obtain ⟨jsons, hJsons, rfl⟩ := Option.map_eq_some_iff.1 h
    obtain ⟨kind, hKind, hGetKind⟩ := get?_written hJsons "type" rfl
    obtain ⟨message, hMessage, hGetMessage⟩ := get?_written hJsons "message" rfl
    obtain rfl := Option.some.inj hMessage
    have hRead : decodeFailure (Json.toValue (.object jsons)) =
        .taskFailure (kind.toValue.orElse (.text "Error")) (.text error.plain) := by
      rw [Json.toValue, decodeFailure, hGetKind, hGetMessage]
      rfl
    rw [hRead, encodeFailure_taskFailure (isTruthy_orElse _ (by decide)),
      failureKind_settledFailure, plain_settledFailure]
    exact .mapping (.cons ⟨rfl, sameJson_orElse hKind _⟩ (.cons ⟨rfl, .text _⟩ .nil))

/-- What is read for written options is written as the options themselves. -/
theorem TaskOptions.sameJson_ofFields {options : TaskOptions}
    (h : fieldsToJson? options.toFields = some jsons) :
    (Value.mapping (TaskOptions.ofFields (Json.fieldsToValues jsons)).toFields).SameJson
      (.mapping options.toFields) :=
  .mapping
    (.cons ⟨rfl, sameJson_getD h rfl⟩
      (.cons ⟨rfl, sameJson_getD h rfl⟩
        (.cons ⟨rfl, sameJson_getD h rfl⟩
          (.cons ⟨rfl, sameJson_getD h rfl⟩
            (.cons ⟨rfl, sameJson_getD h rfl⟩
              (.cons ⟨rfl, sameJson_getD h rfl⟩
                (.cons ⟨rfl, sameJson_getD h rfl⟩ .nil)))))))

/-- Written metadata are read, and what is read is written as the metadata themselves, but for what a
text leaves out. -/
theorem TaskMetadata.IsTimed.exists_decode {metadata : TaskMetadata} (hTimed : metadata.IsTimed)
    (h : fieldsToJson? metadata.encode = some jsons) :
    ∃ read, TaskMetadata.decode (Json.fieldsToValues jsons) = .ok read ∧
      (Value.mapping read.encode).SameJson (.mapping metadata.trimmed.encode) := by
  have hMoment : ∀ {name : String} {moment : Value},
      Fields.get? metadata.encode name = some (encodeMoment moment) →
        Fields.get? (Json.fieldsToValues jsons) name = some (encodeMoment moment) := by
    intro name moment hValue
    obtain ⟨json, hJson, hGet⟩ := get?_written h name hValue
    rw [hGet, toValue_of_encodeMoment hJson]
  obtain ⟨count, hCount, hGetCount⟩ := get?_written h "run_count" rfl
  obtain ⟨error, hError, hGetError⟩ := get?_written h "last_error" rfl
  have hCreated := isRecordedMoment_of_isFixedMoment hTimed.createdAt
  have hUpdated := isRecordedMoment_of_isFixedMoment hTimed.updatedAt
  have hOffsets : ∀ value ∈ [metadata.lastRun, metadata.nextRun, metadata.createdAt,
      metadata.updatedAt], value.HasProperOffset := by
    simp only [List.forall_mem_cons]
    exact ⟨hasProperOffset_of_isRecordedMoment hTimed.lastRun,
      hasProperOffset_of_isRecordedMoment hTimed.nextRun,
      hasProperOffset_of_isRecordedMoment hCreated, hasProperOffset_of_isRecordedMoment hUpdated,
      List.forall_mem_nil _⟩
  refine ⟨_, TaskMetadata.decode_eq_ok hOffsets hGetCount (hMoment rfl) (hMoment rfl) hGetError
    (hMoment rfl) (hMoment rfl), ?_⟩
  exact .mapping
    (.cons ⟨rfl, sameJson_toValue hCount⟩
      (.cons ⟨rfl, sameJson_restoredMoment hTimed.lastRun⟩
        (.cons ⟨rfl, sameJson_restoredMoment hTimed.nextRun⟩
          (.cons ⟨rfl, sameJson_decodeFailure hError⟩
            (.cons ⟨rfl, sameJson_restoredMoment hCreated⟩
              (.cons ⟨rfl, sameJson_restoredMoment hUpdated⟩ .nil))))))

/-- Tasks whose mappings have the same JSON values have the same JSON value. -/
theorem Task.exists_toJson {task other : Task} {own options : TaskOptions}
    (hOwn : task.options = .filled own) (hTask : ∃ metadata, task.metadata = .filled metadata)
    (hOptions : other.options = .filled options)
    (hOther : ∃ metadata, other.metadata = .filled metadata)
    (h : List.Forall₂ (fun field other => field.1 = other.1 ∧ field.2.SameJson other.2)
      (task.encoded own) (other.encoded options)) :
    ∃ json, task.toJson = .ok json ∧ other.toJson = .ok json := by
  obtain ⟨json, hFirst, hSecond⟩ := SameJson.mapping h
  refine ⟨json, ?_, ?_⟩
  · rw [Task.toJson, Task.encode?_eq hOwn (.inr hTask)]
    dsimp only
    rw [hFirst]
  · rw [Task.toJson, Task.encode?_eq hOptions (.inr hOther)]
    dsimp only
    rw [hSecond]

/-- The mapping of a task with all its parts is read as a task with the same identifier and the same
mapping, but for what a text leaves out. -/
theorem Task.IsTold.exists_decodeFields {task : Task} {options : TaskOptions} (h : task.IsTold)
    (hOptions : task.options = .filled options)
    (hJsons : fieldsToJson? (task.encoded options) = some jsons) :
    ∃ read, Task.decodeFields (Json.fieldsToValues jsons) = .ok read ∧ read.id = task.id ∧
      ∃ json, read.toJson = .ok json ∧ task.trimmed.toJson = .ok json := by
  obtain ⟨metadata, hMetadata, hTimed⟩ := h.metadata
  have hRecord : task.metadata.metadataRecord = metadata := by
    rw [hMetadata]
    rfl
  obtain ⟨id, hId, hGetId⟩ := get?_written hJsons "id" rfl
  have hSameId : id.toValue = task.id := by
    obtain ⟨own, hOwn⟩ := h.id
    rw [hOwn, own.toJson?_toValue] at hId
    rw [hOwn, Option.some.inj hId]
  obtain ⟨status, hStatus, hGetStatus⟩ := get?_written hJsons "status" rfl
  obtain ⟨first, hFirst, hGetOptions⟩ := get?_written hJsons "options" rfl
  obtain ⟨own, hOwn, rfl⟩ := Option.map_eq_some_iff.1 hFirst
  obtain ⟨second, hSecond, hGetMetadata⟩ := get?_written hJsons "metadata" rfl
  rw [hRecord] at hSecond
  obtain ⟨parts, hParts, rfl⟩ := Option.map_eq_some_iff.1 hSecond
  obtain ⟨read, hDecode, hRead⟩ := hTimed.exists_decode hParts
  have hExpression : optionsFields (Json.object own).toValue = .ok (Json.fieldsToValues own) := by
    obtain ⟨_, -, hGet⟩ := get?_written hOwn "expression" rfl
    refine if_pos ?_
    rw [Fields.has, hGet]
    rfl
  have hTrimmed : task.trimmed = { task with metadata := .filled metadata.trimmed } := by
    rw [Task.trimmed, hMetadata]
  refine ⟨_, Task.decodeFields_eq_ok hGetOptions hGetMetadata hExpression rfl hDecode,
    by rw [hGetId]; exact hSameId, Task.exists_toJson rfl ⟨read, rfl⟩ (by rw [hTrimmed, hOptions])
      ⟨metadata.trimmed, by rw [hTrimmed]⟩ ?_⟩
  rw [hTrimmed, hGetStatus]
  exact .cons ⟨rfl, sameJson_getD hJsons rfl⟩
    (.cons ⟨rfl, sameJson_getD hJsons rfl⟩
      (.cons ⟨rfl, sameJson_decodeStatus h.status hStatus _⟩
        (.cons ⟨rfl, TaskOptions.sameJson_ofFields hOwn⟩ (.cons ⟨rfl, hRead⟩ .nil))))

/-- **Reading back.** What is written for a task with all its parts is read with the same identifier and
the same mapping, but for what a text leaves out. -/
theorem Task.IsTold.exists_read {task : Task} (h : task.IsTold) {text : String}
    (hWrite : task.write = .ok text) :
    ∃ read, Task.read text = .ok read ∧ read.id = task.id ∧
      ∃ json, read.toJson = .ok json ∧ task.trimmed.toJson = .ok json := by
  obtain ⟨options, hOptions⟩ := h.options
  obtain ⟨metadata, hMetadata, -⟩ := h.metadata
  obtain ⟨json, hJson, hWritable, rfl⟩ := Task.write_eq_ok hOptions hMetadata hWrite
  have hEncoded := Task.isProper_encoded h.proper hOptions hMetadata
  have hRegular := json.isRegular_of_isProper (isProper_of_toJson? _ hEncoded hJson) hWritable
  obtain ⟨jsons, hJsons, rfl⟩ := Option.map_eq_some_iff.1 hJson
  obtain ⟨read, hDecode, hRead⟩ := h.exists_decodeFields hOptions hJsons
  exact ⟨read, Task.read_eq_ok_iff.2 ⟨.object jsons, Json.ofText_toText hRegular, hDecode⟩, hRead⟩

end written

end Crontab
