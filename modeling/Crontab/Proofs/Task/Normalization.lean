import Crontab.Proofs.Task.Told

/-!
# Reading settles

Whatever is read as a task from the value of a JSON text is written as a text that is read as the same
task, up to the message of its last error, which becomes its own text.  So the first reading settles
what the following ones leave as it is.

* `Moment.restored_orOnClock_of_ofIso` — a moment that is read is not changed by being written;
* `restoredStatus_decodeStatus`, `IsSeenAs.decodeFailure` — nor is a status, nor what is seen of an
  error;
* `Task.IsSeenAs` — tasks that look alike;
* `Task.isStorable_decode`, `Task.isSeenAs_restored` — tasks that are read can be stored, and look
  alike when they are read again;
* `Task.decode_settles` — reading, writing and reading again.
-/

namespace Crontab

open Time

/-! ## Moments that are read -/

namespace Time

section offsets

variable {text : List Char} {time : TimeReading} {offset : Int}

/-- An offset that is read is zero, or a second at least. -/
theorem offset_of_readOffset? (h : readOffset? text = some offset) :
    offset = 0 ∨ second ≤ offset.natAbs := by
  rw [readOffset?.eq_def] at h
  split at h
  · split at h
    · exact .inl (Option.some.inj h).symm
    · cases h
  · obtain ⟨⟨time, left⟩, -, h⟩ := Option.bind_eq_some_iff.1 h
    dsimp only at h
    split at h
    · cases h
    · obtain rfl := Option.some.inj h
      split
      · exact .inl rfl
      · next hLarge =>
        refine .inr ?_
        split <;> omega
  · cases h

/-- An offset that is read with a time of day is none at all or a second at least. -/
theorem offset_of_readTimePart? (h : readTimePart? text = some (time, some offset)) :
    offset = 0 ∨ second ≤ offset.natAbs := by
  obtain ⟨⟨own, left⟩, -, h⟩ := Option.bind_eq_some_iff.1 h
  dsimp only at h
  split at h
  · split at h
    · cases h
    · cases h
  · obtain ⟨own, hOwn, h⟩ := Option.bind_eq_some_iff.1 h
    cases h
    exact offset_of_readOffset? hOwn

/-- An offset that is read with a date is none at all or a second at least. -/
theorem offset_of_readParts {date : DateReading} (h : readParts text = some (date, time, some offset)) :
    offset = 0 ∨ second ≤ offset.natAbs := by
  rw [readParts] at h
  split at h
  · cases h
  · obtain ⟨own, -, h⟩ := Option.bind_eq_some_iff.1 h
    split at h
    · cases h
    · obtain ⟨⟨ownTime, ownOffset⟩, hTime, h⟩ := Option.bind_eq_some_iff.1 h
      cases h
      exact offset_of_readTimePart? hTime

end offsets

namespace Moment

/-- A moment that is read is told in its first pass, by the clock of nobody, by that of universal time,
or by one with an offset of a second at least. -/
theorem cases_of_ofIso {text : List Char} {moment : Moment} (h : ofIso text = .ok moment) :
    moment.pass = .first ∧ (moment.clock = .naive ∨ moment.clock = .universal ∨
      ∃ offset, moment.clock = .fixed offset none ∧ second ≤ offset.natAbs) := by
  rw [ofIso, ofIsoChars] at h
  split at h
  · cases h
  · next date time offset? hParts =>
    simp only [bind_eq_ok] at h
    obtain ⟨clock, hClock, number, -, timeOfDay, -, h⟩ := h
    split at h
    · obtain rfl := Except.ok.inj h
      refine ⟨rfl, ?_⟩
      cases offset? with
      | none => exact .inl (Except.ok.inj hClock).symm
      | some offset =>
        rw [clockOfOffset] at hClock
        split_ifs at hClock with hZero hDay
        · exact .inr (.inl (Except.ok.inj hClock).symm)
        · refine .inr (.inr ⟨offset, (Except.ok.inj hClock).symm, ?_⟩)
          exact (offset_of_readParts hParts).resolve_left hZero
    · cases h

/-- **Moments.** A moment that is read, a naive one in universal time, is not changed by being written
and read. -/
theorem restored_orOnClock_of_ofIso {text : List Char} {moment : Moment}
    (h : ofIso text = .ok moment) :
    (moment.orOnClock .universal).restored = moment.orOnClock .universal := by
  obtain ⟨wall, clock, pass⟩ := moment
  obtain ⟨rfl, rfl | rfl | ⟨offset, rfl, hLarge⟩⟩ := cases_of_ofIso h
  · rfl
  · rfl
  · have hOwn : (Moment.mk wall (.fixed offset none) .first).orOnClock .universal =
        ⟨wall, .fixed offset none, .first⟩ := rfl
    rw [hOwn, restored, offset?]
    simp only [if_neg (Nat.not_lt.2 hLarge)]

end Moment

end Time

/-! ## Parts that are read -/

/-- No moment both times, or the same moment, which tells its instant. -/
def IsSameMoment (value again : Value) : Prop :=
  again = value ∧ (value = .null ∨
    ∃ moment instant, value = .moment moment ∧ moment.instant? = some instant)

/-- No error both times, or errors with the same name of their kind and the same text. -/
def IsSameFailure (error again : Value) : Prop :=
  (error = .null ∧ again = .null) ∨
    ∃ kind, error.attribute? "error_type" = some kind ∧ again.attribute? "error_type" = some kind ∧
      again.plain = error.plain

section parts

open Value

variable {value moment : Value} {fields : Fields Value}

/-- All that was read for a moment is left of it. -/
theorem restoredMoment_decodeMoment (h : decodeMoment value = .ok moment) :
    restoredMoment moment = moment := by
  rw [decodeMoment] at h
  split at h
  · obtain rfl := Except.ok.inj h
    rfl
  · split at h
    · obtain rfl := Except.ok.inj h
      rfl
    · split at h
      · next own hOwn =>
        obtain rfl := Except.ok.inj h
        exact congrArg Value.moment (Moment.restored_orOnClock_of_ofIso hOwn)
      · cases h

/-- What is left of a moment that was read is the same moment. -/
theorem isSameMoment_decodeMoment (h : decodeMoment value = .ok moment) :
    IsSameMoment moment (restoredMoment moment) := by
  refine ⟨restoredMoment_decodeMoment h, ?_⟩
  have hFixed := isFixedMoment_decodeMoment h
  cases moment with
  | null => exact .inl rfl
  | moment m =>
    obtain ⟨offset, name, hClock, -⟩ := hFixed
    refine .inr ⟨m, m.wall.count - offset, rfl, ?_⟩
    rw [Moment.instant?, Moment.offset?, hClock]
    rfl
  | _ => exact hFixed.elim

/-- A status that is read, or pending for want of one, is what is left of the one given. -/
theorem decodeStatus_orElse_pending {given : Value} (h : given.IsJson) :
    decodeStatus (given.orElse (.text Status.pending.name)) = restoredStatus given := by
  obtain ⟨json, -, rfl⟩ := h
  rw [restoredStatus, encodeStatus_toValue]

/-- An error that is read has a kind, by name or by default. -/
theorem decodeFailure_cases (value : Value) :
    decodeFailure value = .null ∨
      ∃ kind message, decodeFailure value = .taskFailure kind message ∧ kind.isTruthy = true := by
  cases value with
  | mapping fields => exact .inr ⟨_, _, rfl, isTruthy_orElse _ (by decide)⟩
  | _ => exact .inl rfl

/-- An error of a task has the kind it was made with. -/
theorem failureKind_taskFailure {kind : Value} (h : kind.isTruthy = true) (message : Value) :
    failureKind (.taskFailure kind message) = kind :=
  orElse_of_isTruthy h _

/-- What is left of an error with a kind is the kind and the text. -/
theorem restoredFailure_of_isTruthy {kind : Value} (h : kind.isTruthy = true) (message : Value) :
    restoredFailure (.taskFailure kind message) = .taskFailure kind (.text message.plain) := by
  rw [restoredFailure_of_ne_null rfl, failureKind_taskFailure h, orElse_of_isTruthy h]
  rfl

/-- What is left of an error that was read is the same error. -/
theorem isSameFailure_decodeFailure (value : Value) :
    IsSameFailure (decodeFailure value) (restoredFailure (decodeFailure value)) := by
  rcases decodeFailure_cases value with hNull | ⟨kind, message, hFailure, hKind⟩
  · rw [hNull]
    exact .inl ⟨rfl, rfl⟩
  · rw [hFailure, restoredFailure_of_isTruthy hKind]
    exact .inr ⟨kind, rfl, rfl, rfl⟩

/-- What is left of an error that was read is written like the error. -/
theorem encodeFailure_restored_decodeFailure (value : Value) :
    encodeFailure (restoredFailure (decodeFailure value)) = encodeFailure (decodeFailure value) := by
  rcases decodeFailure_cases value with hNull | ⟨kind, message, hFailure, hKind⟩
  · rw [hNull]
    rfl
  · rw [hFailure, restoredFailure_of_isTruthy hKind, encodeFailure_taskFailure hKind, encodeFailure,
      failureKind_taskFailure hKind]
    rfl

/-- What a JSON mapping has under a name is a JSON value, and so is a default that is one. -/
theorem Value.IsJson.getD (h : (Value.mapping fields).IsJson) (name : String) {other : Value}
    (hOther : other.IsJson) : ((Fields.get? fields name).getD other).IsJson := by
  cases hValue : Fields.get? fields name with
  | none => exact hOther
  | some value => exact h.get? hValue

/-- A JSON value, or a text in its place, is a JSON value. -/
theorem Value.IsJson.orElse (h : value.IsJson) (s : String) : (value.orElse (.text s)).IsJson := by
  unfold Value.orElse
  split
  · exact h
  · exact .text s

/-- An error that was read from a JSON value can be stored. -/
theorem isStorableFailure_decodeFailure (h : value.IsJson) :
    (decodeFailure value).IsStorableFailure := by
  cases value with
  | mapping fields => exact IsJson.orElse (IsJson.getD h "type" .null) "Error"
  | _ => trivial

end parts

/-! ## Metadata and tasks that are read -/

/-- Metadata that look alike. -/
structure TaskMetadata.IsSeenAs (metadata again : TaskMetadata) : Prop where
  runCount : again.runCount = metadata.runCount
  lastRun : IsSameMoment metadata.lastRun again.lastRun
  nextRun : IsSameMoment metadata.nextRun again.nextRun
  lastError : IsSameFailure metadata.lastError again.lastError
  createdAt : IsSameMoment metadata.createdAt again.createdAt
  updatedAt : IsSameMoment metadata.updatedAt again.updatedAt

/-- Tasks that look alike: they have the same identifier, name, status, options and count of runs, the same
moments, all of which tell their instants, and errors of the same kind with the same text. -/
structure Task.IsSeenAs (task again : Task) : Prop where
  id : again.id = task.id
  name : again.name = task.name
  status : again.status = task.status
  execute : task.execute = .null ∧ again.execute = .null
  options : ∃ options, task.options = .filled options ∧ again.options = .filled options
  metadata : ∃ metadata other, task.metadata = .filled metadata ∧ again.metadata = .filled other ∧
    metadata.IsSeenAs other

section tasks

open Value

variable {fields : Fields Value} {metadata : TaskMetadata} {task : Task}

/-- Metadata that are read can be stored, and look alike when they are read again. -/
theorem TaskMetadata.isStorable_decode (hFields : (Value.mapping fields).IsJson)
    (h : TaskMetadata.decode fields = .ok metadata) :
    metadata.IsStorable ∧ metadata.IsSeenAs metadata.restored ∧
      metadata.restored.encode = metadata.encode := by
  simp only [TaskMetadata.decode, bind_eq_ok] at h
  obtain ⟨last, hLast, next, hNext, created, hCreated, updated, hUpdated, h⟩ := h
  obtain rfl := Except.ok.inj h
  have hOffset : ∀ {value moment : Value}, decodeMoment value = .ok moment →
      moment.HasProperOffset := fun hDecode =>
    hasProperOffset_of_isRecordedMoment
      (isRecordedMoment_of_isFixedMoment (isFixedMoment_decodeMoment hDecode))
  refine ⟨⟨hFields.getD _ (.int (by decide)), isStorableFailure_decodeFailure (hFields.getD _ .null), ?_⟩,
    ⟨rfl, isSameMoment_decodeMoment hLast, isSameMoment_decodeMoment hNext,
      isSameFailure_decodeFailure _, isSameMoment_decodeMoment hCreated,
      isSameMoment_decodeMoment hUpdated⟩, ?_⟩
  · simp only [List.forall_mem_cons]
    exact ⟨hOffset hLast, hOffset hNext, hOffset hCreated, hOffset hUpdated, List.forall_mem_nil _⟩
  · simp only [TaskMetadata.encode, TaskMetadata.restored, restoredMoment_decodeMoment hLast,
      restoredMoment_decodeMoment hNext, restoredMoment_decodeMoment hCreated,
      restoredMoment_decodeMoment hUpdated, encodeFailure_restored_decodeFailure]

/-- The options and the metadata in a mapping of JSON values are mappings of JSON values. -/
theorem isJson_of_optionsFields {value : Value} (h : value.IsJson)
    (hFields : optionsFields value = .ok fields) : (Value.mapping fields).IsJson := by
  unfold optionsFields at hFields
  split at hFields
  · split at hFields
    · obtain rfl := Except.ok.inj hFields
      exact h
    · cases hFields
  · cases hFields

/-- The fields that metadata are read from are JSON values. -/
theorem isJson_of_metadataFields {value : Value} (h : value.IsJson)
    (hFields : metadataFields value = .ok fields) : (Value.mapping fields).IsJson := by
  unfold metadataFields at hFields
  split at hFields
  · obtain rfl := Except.ok.inj hFields
    exact .mapping List.nodup_nil (List.forall_mem_nil _)
  · obtain rfl := Except.ok.inj hFields
    exact h
  · cases hFields

/-- **Reading settles.** A task that is read from a mapping of JSON values can be stored; when it is
read again it looks alike, and it has the same mapping. -/
theorem Task.isStorable_decodeFields {jsons : List (String × Json)}
    (hRegular : (Json.object jsons).IsRegular)
    (h : Task.decodeFields (Json.fieldsToValues jsons) = .ok task) :
    task.IsStorable ∧ task.IsSeenAs task.restored ∧ task.restored.encode? = task.encode? := by
  have hJson : (Value.mapping (Json.fieldsToValues jsons)).IsJson := ⟨.object jsons, hRegular, rfl⟩
  have hGiven : ∀ name, ((Fields.get? (Json.fieldsToValues jsons) name).getD .null).IsJson :=
    fun name => hJson.getD name .null
  simp only [Task.decodeFields, bind_eq_ok] at h
  obtain ⟨options, hOptions, parts, hParts, metadata, hMetadata, h⟩ := h
  obtain rfl := Except.ok.inj h
  obtain ⟨hStorable, hSeen, hEncoded⟩ := TaskMetadata.isStorable_decode
    (isJson_of_metadataFields (hGiven "metadata") hParts) hMetadata
  have hOwnOptions : (TaskOptions.ofFields options).AreJson := by
    have hDefault : TaskOptions.AreJson { expression := .null } := by
      simp only [TaskOptions.AreJson, TaskOptions.toFields, List.forall_mem_cons]
      exact ⟨.null, .null, .null, .null, .null, .null, .null, List.forall_mem_nil _⟩
    exact hDefault.replaced fun name value hValue =>
      (isJson_of_optionsFields (hGiven "options") hOptions).get? hValue
  have hStatus := decodeStatus_orElse_pending (hGiven "status")
  have hSettled := restoredStatus_restoredStatus
    ((Fields.get? (Json.fieldsToValues jsons) "status").getD .null)
  rw [hStatus]
  refine ⟨⟨hGiven "id", hJson.getD _ (.text _), isStorable_restoredStatus (.inl (hGiven "status")),
    ⟨_, rfl, hOwnOptions⟩, .inr ⟨metadata, rfl, hStorable⟩⟩,
    ⟨rfl, rfl, hSettled, ⟨rfl, rfl⟩, ⟨_, rfl, rfl⟩, ⟨metadata, _, rfl, rfl, hSeen⟩⟩, ?_⟩
  rw [Task.encode?_eq rfl (.inr ⟨_, rfl⟩), Task.encode?_eq rfl (.inr ⟨_, rfl⟩)]
  simp only [Task.encoded, Task.restored, hSettled, Slot.metadataRecord_filled, hEncoded]

/-- **Reading, writing and reading.** The value of a JSON text is no task, or it is read as a task that
is written as a text; what is read from that text looks like the task, and it has the same mapping. -/
theorem Task.decode_settles {text : String} {json : Json} (h : Json.ofText text = .ok json) :
    (∃ fault, Task.decode json.toValue = .error fault) ∨
      ∃ task fields written again, Task.decode json.toValue = .ok task ∧
        task.encode? = some fields ∧ task.write = .ok written ∧ Task.read written = .ok again ∧
        task.IsSeenAs again ∧ again.encode? = some fields := by
  cases hDecode : Task.decode json.toValue with
  | error fault => exact .inl ⟨fault, rfl⟩
  | ok task =>
    have hRegular := Json.isRegular_of_ofText h
    cases json with
    | object jsons =>
      obtain ⟨hStorable, hSeen, hMapping⟩ := Task.isStorable_decodeFields hRegular hDecode
      obtain ⟨options, hOptions, -⟩ := hStorable.options
      obtain ⟨written, hWrite, hRead⟩ := Task.read_write hStorable
      have hEncoded := Task.encode?_eq hOptions hStorable.filled
      exact .inr ⟨task, _, written, task.restored, rfl, hEncoded, hWrite, hRead, hSeen,
        hMapping.trans hEncoded⟩
    | _ => cases hDecode

end tasks

/-- A report of which the status has no name among the states, the last run was told with `Z`, and the
last error has no kind and a number for its message. -/
def unsettledReport : Json :=
  .object [("id", .int 7), ("status", .text "stuck"),
    ("options", .object [("expression", .text "0 6 * * 1"), ("timeout", .bool true)]),
    ("metadata", .object [("last_run", .text "20240101T06:00Z"),
      ("last_error", .object [("message", .int 404)])])]

/-- The unsettled report is settled by reading it once. -/
theorem Task.decode_settles_unsettledReport :
    Json.ofText unsettledReport.toText = .ok unsettledReport ∧
      ∃ task fields written again, Task.decode unsettledReport.toValue = .ok task ∧
        task.encode? = some fields ∧ task.write = .ok written ∧ Task.read written = .ok again ∧
        task.IsSeenAs again ∧ again.encode? = some fields := by
  have hRegular : unsettledReport.IsRegular := by
    simp only [unsettledReport, Json.IsRegular, Json.HasRegularFields, and_true, true_and]
    decide
  have hText : Json.ofText unsettledReport.toText = .ok unsettledReport := Json.ofText_toText hRegular
  have hTask : (Task.decode unsettledReport.toValue).isOk = true := by decide +kernel
  refine ⟨hText, (Task.decode_settles hText).resolve_left ?_⟩
  rintro ⟨fault, hFault⟩
  rw [hFault] at hTask
  cases hTask

end Crontab
