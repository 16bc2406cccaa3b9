import Crontab.Proofs.Task.Restored

/-!
# Round trips of tasks

A task that can be stored is written and read back with the same content, and what is read is
written and read back as it is.

* `Moment.trimmed`, `Task.settled` — what a text does not tell apart;
* `Task.restored_restored` — reading back what was read changes nothing;
* `Task.Keeps` — what a task that was read has in common with the one that was written;
* `Task.roundTrip` — the round trip.
-/

namespace Crontab

open Time

/-! ## What a text does not tell apart -/

namespace Time.Moment

/-- The moment without an offset of less than a second. -/
def trimmed (moment : Moment) : Moment :=
  match moment.offset? with
  | none => moment
  | some offset =>
    if offset ≠ 0 ∧ offset.natAbs < second then moment.onClock .universal else moment

variable {moment other : Moment}

/-- What is left of a moment has the offset that its text tells. -/
theorem offset?_restored (moment : Moment) :
    moment.restored.offset? = (moment.trimmed.orOnClock .universal).offset? := by
  have hSome : ∀ {offset : Int}, moment.offset? = some offset →
      moment.orOnClock .universal = moment := by
    intro offset hOffset
    unfold orOnClock isNaive
    split
    · next hNaive =>
      rw [offset?, of_decide_eq_true hNaive] at hOffset
      cases hOffset
    · rfl
  cases hOffset : moment.offset? with
  | none =>
    have hClock : moment.clock = .naive := by
      unfold offset? at hOffset
      split at hOffset
      · assumption
      · cases hOffset
      · cases hOffset
    simp only [restored, trimmed, hOffset, orOnClock, isNaive, hClock]
    rfl
  | some offset =>
    unfold restored trimmed
    rw [hOffset]
    simp only
    by_cases hSmall : offset.natAbs < second
    · rw [if_pos hSmall]
      by_cases hZero : offset = 0
      · rw [if_neg (by simp [hZero]), hSome hOffset, hOffset, hZero]
        rfl
      · rw [if_pos ⟨hZero, hSmall⟩]
        rfl
    · rw [if_neg hSmall, if_neg (fun h => hSmall h.2), hSome hOffset, hOffset]
      rfl

/-- The text of a moment tells its reading. -/
theorem wall_settled (moment : Moment) :
    (moment.trimmed.orOnClock .universal).wall = moment.wall := by
  have hTrimmed : moment.trimmed.wall = moment.wall := by
    unfold trimmed
    split
    · rfl
    · split
      · rfl
      · rfl
  rw [← hTrimmed]
  unfold orOnClock
  split
  · rfl
  · rfl

/-- The text of a moment tells its reading and its offset. -/
theorem iso_congr (hWall : moment.wall = other.wall) (hOffset : moment.offset? = other.offset?) :
    moment.iso = other.iso := by
  rw [iso, iso, isoChars_eq, isoChars_eq, offsetText, offsetText, hWall, hOffset]

/-- Moments of the same reading and the same offset are at the same instant. -/
theorem instant?_congr (hWall : moment.wall = other.wall)
    (hOffset : moment.offset? = other.offset?) : moment.instant? = other.instant? := by
  rw [instant?, instant?, hWall, hOffset]

/-- What is left of a moment has the text of what its text tells. -/
theorem iso_restored (moment : Moment) :
    moment.restored.iso = (moment.trimmed.orOnClock .universal).iso :=
  iso_congr (wall_settled moment).symm (offset?_restored moment)

/-- **Instants.** What is left of a moment is its instant, naive moments being read in universal
time, but offsets of less than a second do not count. -/
theorem instant?_restored (moment : Moment) :
    moment.restored.instant? = (moment.trimmed.orOnClock .universal).instant? :=
  instant?_congr (wall_settled moment).symm (offset?_restored moment)

/-- All is left of a moment in universal time. -/
theorem restored_universal (wall : Wall) : (universal wall).restored = universal wall := rfl

/-- What is left of a moment is on the clock of universal time or on that of an offset of at least a
second. -/
theorem restored_cases (moment : Moment) :
    moment.restored = universal moment.wall ∨
      ∃ offset, moment.offset? = some offset ∧ ¬offset.natAbs < second ∧
        moment.restored = ⟨moment.wall, .fixed offset none, .first⟩ := by
  unfold restored
  cases moment.offset? with
  | none => exact .inl rfl
  | some offset =>
    by_cases hSmall : offset.natAbs < second
    · exact .inl (by simp only [if_pos hSmall]; rfl)
    · exact .inr ⟨offset, rfl, hSmall, by simp only [if_neg hSmall]⟩

/-- Nothing more is lost of what is left of a moment. -/
theorem restored_restored (moment : Moment) : moment.restored.restored = moment.restored := by
  rcases moment.restored_cases with hUniversal | ⟨offset, -, hLarge, hFixed⟩
  · rw [hUniversal, restored_universal]
  · rw [hFixed]
    simp only [restored, offset?, if_neg hLarge]

/-- What is left of a proper moment is proper. -/
theorem isProper_restored (h : moment.IsProper) : moment.restored.IsProper := by
  rcases moment.restored_cases with hUniversal | ⟨offset, hOffset, -, hFixed⟩
  · rw [hUniversal]
    rintro offset ⟨⟩
    decide
  · rw [hFixed]
    rintro _ ⟨⟩
    exact h offset hOffset

end Time.Moment

/-- A moment as far as its text tells: without an offset of less than a second, and a naive one in
universal time. -/
def settledMoment : Value → Value
  | .moment moment => .moment (moment.trimmed.orOnClock .universal)
  | value => value

/-- An error as far as its text tells: a kind without a name is an `Error`. -/
def settledFailure : Value → Value
  | .failure kind message => .failure (if kind.isEmpty then "Error" else kind) message
  | error => error

/-- Metadata as far as their text tells. -/
def TaskMetadata.settled (metadata : TaskMetadata) : TaskMetadata where
  runCount := metadata.runCount
  lastRun := settledMoment metadata.lastRun
  nextRun := settledMoment metadata.nextRun
  lastError := settledFailure metadata.lastError
  createdAt := settledMoment metadata.createdAt
  updatedAt := settledMoment metadata.updatedAt

/-- A task as far as its text tells: without a status it is pending. -/
def Task.settled (task : Task) : Task :=
  { task with
    status := if (encodeStatus task.status).isTruthy then task.status else .status .pending
    metadata := .filled task.metadata.metadataRecord.settled }

/-! ## Parts of a task -/

section parts

/-- Nothing more is lost of what is left of a value that may be a moment. -/
theorem restoredMoment_restoredMoment (value : Value) :
    restoredMoment (restoredMoment value) = restoredMoment value := by
  cases value with
  | moment m => rw [restoredMoment, restoredMoment, m.restored_restored]
  | _ => rfl

/-- What is left of a moment is written like what its text tells. -/
theorem encodeMoment_restoredMoment (value : Value) :
    encodeMoment (restoredMoment value) = encodeMoment (settledMoment value) := by
  cases value with
  | moment m => rw [restoredMoment, settledMoment, encodeMoment, encodeMoment, m.iso_restored]
  | _ => rfl

/-- What is left of a moment with a proper offset has one. -/
theorem hasProperOffset_restoredMoment {value : Value} (h : value.HasProperOffset) :
    (restoredMoment value).HasProperOffset := by
  cases value with
  | moment m => exact m.isProper_restored h
  | _ => trivial

/-- A value that counts as present stands for itself. -/
theorem orElse_of_isTruthy {value : Value} (h : value.isTruthy = true) (other : Value) :
    value.orElse other = value := by
  rw [Value.orElse, if_pos h]

/-- A value counts as given if what takes its place otherwise does. -/
theorem isTruthy_orElse (value : Value) {other : Value} (h : other.isTruthy = true) :
    (value.orElse other).isTruthy = true := by
  unfold Value.orElse
  split
  · assumption
  · exact h

/-- The kind and the message of an error that was read are those that were read. -/
theorem restoredFailure_taskFailure {kind : Value} (h : kind.isTruthy = true) (message : String) :
    restoredFailure (.taskFailure kind (.text message)) = .taskFailure kind (.text message) := by
  have hKind : failureKind (.taskFailure kind (.text message)) = kind :=
    orElse_of_isTruthy h _
  unfold restoredFailure
  rw [hKind, orElse_of_isTruthy h]
  rfl

/-- What is left of an error is the name of its kind and its text. -/
theorem restoredFailure_of_ne_null {error : Value} (h : error.isNull = false) :
    restoredFailure error =
      .taskFailure ((failureKind error).orElse (.text "Error")) (.text error.plain) := by
  rw [restoredFailure, h]
  rfl

/-- Nothing more is lost of what is left of an error. -/
theorem restoredFailure_restoredFailure (error : Value) :
    restoredFailure (restoredFailure error) = restoredFailure error := by
  cases hNull : error.isNull with
  | true =>
    have hRestored : restoredFailure error = .null := by rw [restoredFailure, if_pos hNull]
    rw [hRestored]
    rfl
  | false =>
    rw [restoredFailure_of_ne_null hNull,
      restoredFailure_taskFailure (isTruthy_orElse _ (by decide))]

/-- An error of a task is written with the name of its kind and its message. -/
theorem encodeFailure_taskFailure {kind : Value} (h : kind.isTruthy = true) (message : String) :
    encodeFailure (.taskFailure kind (.text message)) =
      .mapping [("type", kind), ("message", .text message)] := by
  have hKind : failureKind (.taskFailure kind (.text message)) = kind :=
    orElse_of_isTruthy h _
  rw [encodeFailure, hKind]
  rfl

/-- The kind of an error is that which it was raised with. -/
theorem failureKind_failure (kind message : String) :
    failureKind (.failure kind message) = .text kind := rfl

/-- The mapping of an error that was read is that of the error with a name for its kind. -/
theorem encodeFailure_restoredFailure {error : Value} (h : error.IsStorableFailure) :
    encodeFailure (restoredFailure error) = encodeFailure (settledFailure error) := by
  cases error with
  | null => rfl
  | failure kind message =>
    rw [restoredFailure_of_ne_null rfl,
      encodeFailure_taskFailure (isTruthy_orElse _ (by decide)), failureKind_failure, settledFailure,
      encodeFailure]
    by_cases hEmpty : kind.isEmpty = true
    · rw [String.isEmpty_iff.1 hEmpty]
      rfl
    · have hTruthy : (Value.text kind).isTruthy = true := by
        rw [Value.isTruthy, Bool.eq_false_iff.2 hEmpty]
        rfl
      rw [orElse_of_isTruthy hTruthy, if_neg hEmpty]
      rfl
  | taskFailure kind message =>
    have hName : (Value.text "TaskError").isTruthy = true := by decide
    have hKind : (failureKind (.taskFailure kind message)).isTruthy = true :=
      isTruthy_orElse _ hName
    rw [restoredFailure_of_ne_null rfl,
      encodeFailure_taskFailure (isTruthy_orElse _ (by decide)), orElse_of_isTruthy hKind]
    rfl
  | _ => exact h.elim

/-- What is left of a storable error can be stored. -/
theorem isStorableFailure_restoredFailure {error : Value} (h : error.IsStorableFailure) :
    (restoredFailure error).IsStorableFailure := by
  cases hNull : error.isNull with
  | true =>
    rw [restoredFailure, if_pos hNull]
    trivial
  | false =>
    rw [restoredFailure_of_ne_null hNull, Value.orElse]
    split
    · refine isJson_failureKind h ?_
      rintro rfl
      cases hNull
    · exact .text _

/-- A state that was found by a name has that name. -/
theorem Status.name_of_ofName? {name : String} {status : Status}
    (h : Status.ofName? name = some status) : status.name = name := by
  have := List.find?_some h
  exact of_decide_eq_true this

/-- Every state is found by its name. -/
theorem Status.ofName?_name (status : Status) : Status.ofName? status.name = some status := by
  cases status <;> decide

/-- The state that a value is or names. -/
theorem bind_ofName?_eq_some_iff {value : Value} {status : Status} :
    value.text?.bind Status.ofName? = some status ↔
      value = .status status ∨ value = .text status.name := by
  constructor
  · intro h
    cases value with
    | text s => exact .inr (congrArg Value.text (Status.name_of_ofName? h).symm)
    | status own =>
      rw [Value.text?, Option.bind_some, Status.ofName?_name] at h
      exact .inl (congrArg Value.status (Option.some.inj h))
    | _ => cases h
  · rintro (rfl | rfl) <;> exact Status.ofName?_name status

/-- Reading the state a status names does not change what is written for it. -/
theorem encodeStatus_decodeStatus (value : Value) :
    encodeStatus (decodeStatus value) = encodeStatus value := by
  unfold decodeStatus
  split
  · next status hStatus =>
    cases value with
    | text s =>
      rw [Value.text?, Option.bind_some] at hStatus
      rw [encodeStatus, Status.name_of_ofName? hStatus, encodeStatus]
      exact fun _ h => Value.noConfusion h
    | status own =>
      rw [Value.text?, Option.bind_some, Status.ofName?_name] at hStatus
      rw [Option.some.inj hStatus]
    | _ => cases hStatus
  · rfl

/-- What is written for a status counts as present if the status does. -/
theorem isTruthy_encodeStatus_eq (value : Value) :
    (encodeStatus value).isTruthy = value.isTruthy := by
  cases value with
  | status state => cases state <;> rfl
  | _ => rfl

/-- A status that was written, or pending in its place, is written as it is. -/
theorem encodeStatus_orElse_pending (value : Value) :
    encodeStatus ((encodeStatus value).orElse (.text Status.pending.name)) =
      (encodeStatus value).orElse (.text Status.pending.name) := by
  unfold Value.orElse
  split
  · cases value <;> rfl
  · rfl

/-- What is left of a status is written like the status, or pending in its place. -/
theorem encodeStatus_restoredStatus (value : Value) :
    encodeStatus (restoredStatus value) =
      (encodeStatus value).orElse (.text Status.pending.name) := by
  rw [restoredStatus, encodeStatus_decodeStatus, encodeStatus_orElse_pending]

/-- Nothing more is lost of what is left of a status. -/
theorem restoredStatus_restoredStatus (value : Value) :
    restoredStatus (restoredStatus value) = restoredStatus value := by
  have hTruthy : ((encodeStatus value).orElse (.text Status.pending.name)).isTruthy = true :=
    isTruthy_orElse _ (by decide)
  rw [restoredStatus, encodeStatus_restoredStatus, orElse_of_isTruthy hTruthy, ← restoredStatus]

/-- What is left of a storable status can be stored. -/
theorem isStorable_restoredStatus {value : Value}
    (h : value.IsJson ∨ ∃ status, value = .status status) :
    (restoredStatus value).IsJson ∨ ∃ status, restoredStatus value = .status status := by
  unfold restoredStatus decodeStatus
  split
  · next status _ => exact .inr ⟨status, rfl⟩
  · refine .inl ?_
    unfold Value.orElse
    split
    · exact isJson_encodeStatus h
    · exact .text _

end parts

/-! ## What was read, written again -/

theorem Slot.metadataRecord_filled (metadata : TaskMetadata) :
    (Slot.filled metadata).metadataRecord = metadata := rfl

section again

variable {metadata : TaskMetadata} {task : Task}

/-- Nothing more is lost of what is left of metadata. -/
theorem TaskMetadata.restored_restored (metadata : TaskMetadata) :
    metadata.restored.restored = metadata.restored := by
  simp only [TaskMetadata.restored, restoredMoment_restoredMoment, restoredFailure_restoredFailure]

/-- What is left of storable metadata can be stored. -/
theorem TaskMetadata.isStorable_restored (h : metadata.IsStorable) :
    metadata.restored.IsStorable where
  runCount := h.runCount
  lastError := isStorableFailure_restoredFailure h.lastError
  moments := by
    intro value hValue
    obtain ⟨own, hOwn, rfl⟩ : ∃ own ∈ [metadata.lastRun, metadata.nextRun, metadata.createdAt,
        metadata.updatedAt], restoredMoment own = value := List.mem_map.1 hValue
    exact hasProperOffset_restoredMoment (h.moments own hOwn)

/-- What is left of storable metadata is written like what their text tells. -/
theorem TaskMetadata.encode_restored (h : metadata.IsStorable) :
    metadata.restored.encode = metadata.settled.encode := by
  simp only [TaskMetadata.encode, TaskMetadata.restored, TaskMetadata.settled,
    encodeMoment_restoredMoment, encodeFailure_restoredFailure h.lastError]

/-- Reading back what was read changes nothing. -/
theorem Task.restored_restored (task : Task) : task.restored.restored = task.restored := by
  have hMetadata : (Slot.filled task.metadata.metadataRecord.restored).metadataRecord.restored =
      task.metadata.metadataRecord.restored := TaskMetadata.restored_restored _
  unfold Task.restored
  simp only [restoredStatus_restoredStatus, hMetadata]

/-- What was read can be stored. -/
theorem Task.isStorable_restored (h : task.IsStorable) : task.restored.IsStorable where
  id := h.id
  name := h.name
  status := isStorable_restoredStatus h.status
  options := h.options
  metadata := .inr ⟨_, rfl, TaskMetadata.isStorable_restored h.record⟩

/-- The mapping of a task that was read is that of the task as far as its text tells. -/
theorem Task.encode?_restored (h : task.IsStorable) :
    task.restored.encode? = task.settled.encode? := by
  obtain ⟨options, hOptions, -⟩ := h.options
  have hStatus : encodeStatus (if (encodeStatus task.status).isTruthy then task.status
      else .status .pending) = (encodeStatus task.status).orElse (.text Status.pending.name) := by
    unfold Value.orElse
    split
    · rfl
    · rfl
  have hRestored : task.restored.options = .filled options := hOptions
  have hSettled : task.settled.options = .filled options := hOptions
  rw [Task.encode?_eq hRestored (.inr ⟨_, rfl⟩), Task.encode?_eq hSettled (.inr ⟨_, rfl⟩)]
  simp only [Task.encoded, Task.restored, Task.settled, Slot.metadataRecord_filled, hStatus,
    encodeStatus_restoredStatus, TaskMetadata.encode_restored h.record]

end again

/-! ## The round trip -/

/-- A moment and what was read for it: a moment at the same instant, naive moments being taken in
universal time and offsets of less than a second not counting; `null` for anything else. -/
def KeepsMoment : (written read : Value) → Prop
  | .moment moment, read => ∃ other instant, read = .moment other ∧
      other.instant? = some instant ∧
      (moment.trimmed.orOnClock .universal).instant? = some instant
  | _, read => read = .null

/-- An error and what was read for it: an error of a task with the same name of its kind, or `Error`
if that is empty, and the same message. -/
def KeepsFailure (written read : Value) : Prop :=
  if written.isNull then read = .null
  else read = .taskFailure ((failureKind written).orElse (.text "Error")) (.text written.plain)

/-- What metadata that were read have in common with those that were written. -/
structure TaskMetadata.Keeps (written read : TaskMetadata) : Prop where
  runCount : read.runCount = written.runCount
  lastRun : KeepsMoment written.lastRun read.lastRun
  nextRun : KeepsMoment written.nextRun read.nextRun
  lastError : KeepsFailure written.lastError read.lastError
  createdAt : KeepsMoment written.createdAt read.createdAt
  updatedAt : KeepsMoment written.updatedAt read.updatedAt

/-- What a task that was read has in common with the one that was written. -/
structure Task.Keeps (written read : Task) : Prop where
  id : read.id = written.id
  name : read.name = written.name
  status : encodeStatus read.status =
    (encodeStatus written.status).orElse (.text Status.pending.name)
  execute : read.execute = .null
  options : read.options = written.options
  metadata : ∃ metadata, read.metadata = .filled metadata ∧
    written.metadata.metadataRecord.Keeps metadata

section trip

variable {task : Task}

/-- What is left of a moment is at its instant. -/
theorem keepsMoment_restoredMoment (value : Value) : KeepsMoment value (restoredMoment value) := by
  cases value with
  | moment m =>
    obtain ⟨instant, hInstant⟩ : ∃ instant, m.restored.instant? = some instant := by
      rcases m.restored_cases with hUniversal | ⟨offset, -, -, hFixed⟩
      · rw [hUniversal]
        exact ⟨_, rfl⟩
      · rw [hFixed]
        exact ⟨_, rfl⟩
    exact ⟨m.restored, instant, rfl, hInstant, by rw [← m.instant?_restored, hInstant]⟩
  | _ => rfl

/-- What is left of an error has its kind and its message. -/
theorem keepsFailure_restoredFailure (error : Value) : KeepsFailure error (restoredFailure error) := by
  unfold KeepsFailure restoredFailure
  split
  · rfl
  · rfl

/-- What is left of a task has all in common with it that a text tells. -/
theorem Task.keeps_restored (task : Task) : task.Keeps task.restored where
  id := rfl
  name := rfl
  status := encodeStatus_restoredStatus task.status
  execute := rfl
  options := rfl
  metadata :=
    ⟨_, rfl,
      { runCount := rfl
        lastRun := keepsMoment_restoredMoment _
        nextRun := keepsMoment_restoredMoment _
        lastError := keepsFailure_restoredFailure _
        createdAt := keepsMoment_restoredMoment _
        updatedAt := keepsMoment_restoredMoment _ }⟩

/-- **Round trip.** A task that can be stored is written as a text, and the text is read as a task
with the same content.  The mapping of that task is the one of the task as far as its text tells, and
it is written as a text that is read as the very same task. -/
theorem Task.roundTrip (h : task.IsStorable) :
    ∃ text read, task.write = .ok text ∧ Task.read text = .ok read ∧ task.Keeps read ∧
      read.encode? = task.settled.encode? ∧
      ∃ again, read.write = .ok again ∧ Task.read again = .ok read := by
  obtain ⟨text, hWrite, hRead⟩ := Task.read_write h
  obtain ⟨again, hAgain, hSame⟩ := Task.read_write (Task.isStorable_restored h)
  rw [Task.restored_restored] at hSame
  exact ⟨text, task.restored, hWrite, hRead, task.keeps_restored, Task.encode?_restored h, again,
    hAgain, hSame⟩

end trip

/-- A task that failed in its third run at the beginning of 2024, which is told without an offset. -/
def failedTask : Task where
  name := .text "report"
  status := .status .failed
  options := .filled { expression := .text "0 6 * * 1", maxRetries := .int 2 }
  metadata := .filled
    { runCount := .int 3
      lastRun := .moment ⟨.onDate ⟨2024, 1, 1⟩ 0 (by decide), .naive, .first⟩
      lastError := .failure "KeyError" "total" }

/-- The task that failed can be stored. -/
theorem isStorable_failedTask : failedTask.IsStorable where
  id := .null
  name := .text _
  status := .inr ⟨.failed, rfl⟩
  options := ⟨_, rfl, by
    simp only [TaskOptions.toFields, List.forall_mem_cons]
    exact ⟨.text _, .null, .int (by decide), .null, .null, .null, .null, List.forall_mem_nil _⟩⟩
  metadata := .inr ⟨_, rfl,
    { runCount := .int (by decide)
      lastError := trivial
      moments := by simp [Value.HasProperOffset, Moment.IsProper, Moment.offset?] }⟩

/-- The task that failed is read back with its runs and its error. -/
theorem Task.roundTrip_failedTask :
    ∃ text read, failedTask.write = .ok text ∧ Task.read text = .ok read ∧ failedTask.Keeps read ∧
      read.encode? = failedTask.settled.encode? ∧
      ∃ again, read.write = .ok again ∧ Task.read again = .ok read :=
  Task.roundTrip isStorable_failedTask

/-- The beginning of 2024 on a clock that is five microseconds ahead of universal time. -/
def shortOffsetMoment : Moment :=
  ⟨.onDate ⟨2024, 1, 1⟩ 0 (by decide), .fixed 5 none, .first⟩

/-- A task that last ran at that moment. -/
def shortOffsetTask : Task where
  name := .text "report"
  options := .filled { expression := .text "0 6 * * 1" }
  metadata := .filled { lastRun := .moment shortOffsetMoment }

/-- A task that failed with an error of a kind without a name. -/
def namelessErrorTask : Task where
  name := .text "report"
  options := .filled { expression := .text "0 6 * * 1" }
  metadata := .filled { lastError := .failure "" "total" }

/-- Options of an expression and no others are JSON values. -/
theorem areJson_expression (s : String) :
    ∀ field ∈ TaskOptions.toFields { expression := .text s }, field.2.IsJson := by
  simp only [TaskOptions.toFields, List.forall_mem_cons]
  exact ⟨.text _, .null, .null, .null, .null, .null, .null, List.forall_mem_nil _⟩

/-- A task with a text for its name and its expression is storable if its metadata are. -/
theorem Task.isStorable_of_metadata (name expression : String) {metadata : TaskMetadata}
    (h : metadata.IsStorable) :
    Task.IsStorable
      { name := .text name
        options := .filled { expression := .text expression }
        metadata := .filled metadata } where
  id := .null
  name := .text name
  status := .inr ⟨.pending, rfl⟩
  options := ⟨_, rfl, areJson_expression expression⟩
  metadata := .inr ⟨_, rfl, h⟩

/-- The task with the short offset can be stored. -/
theorem isStorable_shortOffsetTask : shortOffsetTask.IsStorable :=
  Task.isStorable_of_metadata _ _
    { runCount := .int (by decide)
      lastError := trivial
      moments := by
        simp [Value.HasProperOffset, Moment.IsProper, Moment.offset?, shortOffsetMoment, day] }

/-- The task with the nameless error can be stored. -/
theorem isStorable_namelessErrorTask : namelessErrorTask.IsStorable :=
  Task.isStorable_of_metadata _ _
    { runCount := .int (by decide)
      lastError := trivial
      moments := by simp [Value.HasProperOffset] }

/-- **What is lost.** For a moment with an offset of less than a second another instant is read, and
for an error of a kind without a name one of a kind with a name. -/
theorem shortOffset_and_nameless_lost :
    (shortOffsetTask.IsStorable ∧
      ∃ text read metadata moment, shortOffsetTask.write = .ok text ∧ Task.read text = .ok read ∧
        read.metadata = .filled metadata ∧ metadata.lastRun = .moment moment ∧
        moment.instant? ≠ shortOffsetMoment.instant?) ∧
    namelessErrorTask.IsStorable ∧
      ∃ text read metadata kind message, namelessErrorTask.write = .ok text ∧
        Task.read text = .ok read ∧ read.metadata = .filled metadata ∧
        metadata.lastError = .taskFailure (.text kind) message ∧ kind ≠ "" := by
  obtain ⟨text, hWrite, hRead⟩ := Task.read_write isStorable_shortOffsetTask
  obtain ⟨text', hWrite', hRead'⟩ := Task.read_write isStorable_namelessErrorTask
  exact ⟨⟨isStorable_shortOffsetTask, text, _, _, _, hWrite, hRead, rfl, rfl, by decide⟩,
    isStorable_namelessErrorTask, text', _, _, _, _, hWrite', hRead', rfl, rfl, by decide⟩

end Crontab
