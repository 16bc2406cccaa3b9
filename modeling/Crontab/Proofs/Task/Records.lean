import Crontab.Proofs.Task.RoundTrip
import Crontab.Task.Lifecycle

/-!
# Records of stores

What a store makes of a plain task is a record, and a plain update of a record is one again.  A record
can be stored, and what is read back of it is a record.

* `Task.IsRecord` — the records;
* `Task.IsPlain`, `PlainUpdate` — what stores are given;
* `Task.isRecord_create`, `Task.isRecord_update` — records come from records;
* `Task.IsRecord.isStorable`, `Task.IsRecord.restored` — records are stored and read back.
-/

namespace Crontab

open Time

/-! ## Records -/

/-- A state, or a text that is not empty. -/
def Value.IsRecordedStatus : Value → Prop
  | .status _ => True
  | .text s => s.isEmpty = false
  | _ => False

/-- No error, or one of which the name of its kind is a text, if it has one. -/
def Value.IsPlainFailure : Value → Prop
  | .null | .failure _ _ => True
  | .taskFailure kind _ => kind = .null ∨ ∃ s, kind = .text s
  | _ => False

/-- No moment, or one with an offset of less than a day. -/
def Value.IsRecordedMoment : Value → Prop
  | .null => True
  | .moment m => m.IsProper ∧ m.isNaive = false
  | _ => False

/-- A moment on a clock set to universal time. -/
def Value.IsUniversalMoment (value : Value) : Prop :=
  ∃ wall, value = .moment (.universal wall)

/-- No moment, or one on the clock of a fixed offset of less than a day. -/
def Value.IsFixedMoment : Value → Prop
  | .null => True
  | .moment m => ∃ offset name, m.clock = .fixed offset name ∧ offset.natAbs < day
  | _ => False

/-- The metadata are those of a record. -/
structure TaskMetadata.IsRecorded (metadata : TaskMetadata) : Prop where
  runCount : metadata.runCount.IsJson
  lastRun : metadata.lastRun.IsRecordedMoment
  nextRun : metadata.nextRun.IsRecordedMoment
  lastError : metadata.lastError.IsPlainFailure
  createdAt : metadata.createdAt.IsUniversalMoment
  updatedAt : metadata.updatedAt.IsUniversalMoment

/-- The options can be stored. -/
def TaskOptions.AreJson (options : TaskOptions) : Prop :=
  ∀ field ∈ options.toFields, field.2.IsJson

/-- The task is a record of a store. -/
structure Task.IsRecord (task : Task) : Prop where
  id : ∃ s, task.id = .text s
  name : ∃ s, task.name = .text s
  status : task.status.IsRecordedStatus
  options : ∃ options, task.options = .filled options ∧ options.AreJson
  metadata : ∃ metadata, task.metadata = .filled metadata ∧ metadata.IsRecorded

/-! ## What stores are given -/

/-- Metadata by name that can be recorded. -/
structure PlainMetadata (get : String → Option Value) : Prop where
  runCount : ∀ value ∈ get "run_count", value.IsJson
  lastRun : ∀ value ∈ get "last_run", value.HasProperOffset
  nextRun : ∀ value ∈ get "next_run", value.HasProperOffset
  lastError : ∀ value ∈ get "last_error", value.IsPlainFailure

/-- A task that can be recorded: its name is a text, its identifier a text or missing, its status a
state or a text, and it has options. -/
structure Task.IsPlain (task : Task) : Prop where
  id : task.id = .null ∨ ∃ s, task.id = .text s
  name : ∃ s, task.name = .text s
  status : (∃ status, task.status = .status status) ∨ ∃ s, task.status = .text s
  options : ∃ options, task.options = .filled options ∧ options.AreJson
  metadata : PlainMetadata (task.metadata.metadataValue.attribute? ·)

/-- A task with metadata that can be stored can be recorded, if its parts are of the right kinds. -/
theorem Task.IsStorable.isPlain {task : Task} {metadata : TaskMetadata} (h : task.IsStorable)
    (hId : task.id = .null ∨ ∃ s, task.id = .text s) (hName : ∃ s, task.name = .text s)
    (hStatus : (∃ status, task.status = .status status) ∨ ∃ s, task.status = .text s)
    (hMetadata : task.metadata = .filled metadata) (hError : metadata.lastError.IsPlainFailure) :
    task.IsPlain where
  id := hId
  name := hName
  status := hStatus
  options := h.options
  metadata := by
    have hStorable := h.record
    rw [hMetadata] at hStorable ⊢
    have hMoments := hStorable.moments
    simp only [List.forall_mem_cons] at hMoments
    refine ⟨?_, ?_, ?_, ?_⟩
    · rintro value ⟨⟩
      exact hStorable.runCount
    · rintro value ⟨⟩
      exact hMoments.1
    · rintro value ⟨⟩
      exact hMoments.2.1
    · rintro value ⟨⟩
      exact hError

/-- The values under all names are values of JSON texts. -/
def HasJsonValues (fields : Fields Value) : Prop :=
  ∀ name value, fields.get? name = some value → value.IsJson

/-- An update that can be recorded. -/
structure PlainUpdate (updates : Fields Value) : Prop where
  name : ∀ value ∈ updates.get? "name", ∃ s, value = .text s
  options : ∀ fields, updates.get? "options" = some (.mapping fields) → HasJsonValues fields
  metadata : ∀ fields, updates.get? "metadata" = some (.mapping fields) →
    PlainMetadata (Fields.get? fields)

/-! ## New records -/

section create

variable {wall : Wall} {task record : Task}

/-- A moment with a proper offset is recorded with that offset. -/
theorem isRecordedMoment_awareMoment {value : Value} (h : value.HasProperOffset) :
    (awareMoment value).IsRecordedMoment := by
  cases value with
  | moment m =>
    rw [awareMoment, Moment.orOnClock]
    by_cases hNaive : m.isNaive = true
    · rw [if_pos hNaive]
      exact ⟨fun offset hOffset => by cases hOffset; decide, rfl⟩
    · rw [if_neg hNaive]
      exact ⟨h, Bool.eq_false_iff.2 hNaive⟩
  | _ => trivial

/-- Metadata that can be recorded are recorded. -/
theorem TaskMetadata.isRecorded_created {source : TaskMetadata}
    (h : PlainMetadata (Fields.get? source.toFields)) :
    (source.created (.universal wall)).IsRecorded where
  runCount := by
    unfold TaskMetadata.created
    simp only
    split
    · exact .int (by decide)
    · exact h.runCount _ rfl
  lastRun := isRecordedMoment_awareMoment (h.lastRun _ rfl)
  nextRun := isRecordedMoment_awareMoment (h.nextRun _ rfl)
  lastError := h.lastError _ rfl
  createdAt := ⟨wall, rfl⟩
  updatedAt := ⟨wall, rfl⟩

theorem plainMetadata_default : PlainMetadata (Fields.get? (TaskMetadata.toFields {})) where
  runCount := by
    rintro value ⟨⟩
    exact .int (by decide)
  lastRun := by
    rintro value ⟨⟩
    trivial
  nextRun := by
    rintro value ⟨⟩
    trivial
  lastError := by
    rintro value ⟨⟩
    trivial

/-- Attributes under given names are the attributes of those names. -/
theorem attributesUnder?_cons_eq_some {value : Value} {name : String} {names : List String}
    {fields : Fields Value} (h : attributesUnder? value (name :: names) = some fields) :
    ∃ first rest, fields = (name, first) :: rest ∧ value.attribute? name = some first ∧
      attributesUnder? value names = some rest := by
  rw [attributesUnder?] at h
  cases hFirst : value.attribute? name with
  | none =>
    rw [hFirst] at h
    cases h
  | some first =>
    cases hRest : attributesUnder? value names with
    | none =>
      rw [hFirst, hRest] at h
      cases h
    | some rest =>
      rw [hFirst, hRest] at h
      exact ⟨first, rest, (Option.some.inj h).symm, rfl, rfl⟩

/-- What new metadata are made of: the metadata of the task, those of one that has not run, or the
attributes of what stands in their place. -/
theorem createMetadata_eq_ok {slot : Slot TaskMetadata} {now : Moment} {metadata : TaskMetadata}
    (h : createMetadata slot now = .ok metadata) :
    ∃ source : TaskMetadata, metadata = source.created now ∧
      (slot = .filled source ∨ source = {} ∨ ∃ value fields, slot = .other value ∧
        attributesUnder? value ["run_count", "last_run", "next_run", "last_error"] = some fields ∧
        source = .ofFields fields) := by
  unfold createMetadata at h
  cases slot with
  | filled source => exact ⟨source, (Except.ok.inj h).symm, .inl rfl⟩
  | other value =>
    cases hTruthy : value.isTruthy with
    | false =>
      rw [Slot.metadataOrNone, hTruthy] at h
      exact ⟨{}, (Except.ok.inj h).symm, .inr (.inl rfl)⟩
    | true =>
      rw [Slot.metadataOrNone, hTruthy, if_pos rfl] at h
      simp only at h
      split at h
      · next fields hFields =>
        exact ⟨_, (Except.ok.inj h).symm, .inr (.inr ⟨value, fields, rfl, hFields, rfl⟩)⟩
      · cases h

/-- The metadata of a new record are those of a record. -/
theorem isRecorded_createMetadata {slot : Slot TaskMetadata}
    (h : PlainMetadata (slot.metadataValue.attribute? ·)) {metadata : TaskMetadata}
    (hCreate : createMetadata slot (.universal wall) = .ok metadata) : metadata.IsRecorded := by
  obtain ⟨source, rfl, rfl | rfl | ⟨value, fields, rfl, hFields, rfl⟩⟩ :=
    createMetadata_eq_ok hCreate
  · exact TaskMetadata.isRecorded_created ⟨h.runCount, h.lastRun, h.nextRun, h.lastError⟩
  · exact TaskMetadata.isRecorded_created plainMetadata_default
  · obtain ⟨runCount, _, rfl, hRunCount, hFields⟩ := attributesUnder?_cons_eq_some hFields
    obtain ⟨lastRun, _, rfl, hLastRun, hFields⟩ := attributesUnder?_cons_eq_some hFields
    obtain ⟨nextRun, _, rfl, hNextRun, hFields⟩ := attributesUnder?_cons_eq_some hFields
    obtain ⟨lastError, _, rfl, hLastError, -⟩ := attributesUnder?_cons_eq_some hFields
    refine TaskMetadata.isRecorded_created ⟨?_, ?_, ?_, ?_⟩
    · rintro value ⟨⟩
      exact h.runCount _ hRunCount
    · rintro value ⟨⟩
      exact h.lastRun _ hLastRun
    · rintro value ⟨⟩
      exact h.nextRun _ hNextRun
    · rintro value ⟨⟩
      exact h.lastError _ hLastError

/-- The identifier of a new record is a text. -/
theorem isText_chooseIdentifier {own : Value} (h : own = .null ∨ ∃ s, own = .text s)
    (issuer : Issuer) : ∃ s, (chooseIdentifier .null own issuer).1 = .text s := by
  unfold chooseIdentifier
  rw [if_neg (by decide)]
  split
  · next hTruthy =>
    rcases h with rfl | hText
    · cases hTruthy
    · exact hText
  · exact ⟨_, rfl⟩

/-- A state or a text, or pending in place of an empty one, is the status of a record. -/
theorem isRecordedStatus_orElse {status : Value}
    (h : (∃ s, status = .status s) ∨ ∃ s, status = .text s) :
    (status.orElse (.status .pending)).IsRecordedStatus := by
  unfold Value.orElse
  split
  · next hTruthy =>
    rcases h with ⟨s, rfl⟩ | ⟨s, rfl⟩
    · trivial
    · rw [Value.isTruthy] at hTruthy
      simpa [Value.IsRecordedStatus] using hTruthy
  · trivial

/-- Options with another zone can be stored. -/
theorem TaskOptions.AreJson.withZone {options : TaskOptions} (h : options.AreJson) {zone : Value}
    (hZone : zone.IsJson) : TaskOptions.AreJson { options with timezone := zone } := by
  unfold TaskOptions.AreJson TaskOptions.toFields at h ⊢
  simp only [List.forall_mem_cons] at h ⊢
  exact ⟨h.1, hZone, h.2.2⟩

/-- The zone of a record is a JSON value if the given and the stored one are. -/
theorem isJson_recordZone {given stored : Value} (hGiven : given.IsJson) (hStored : stored.IsJson) :
    (recordZone given stored).IsJson := by
  unfold recordZone Value.orElse
  split
  · exact hGiven
  · split
    · exact hStored
    · exact .text _

/-- The zone of options that can be stored is a JSON value. -/
theorem TaskOptions.AreJson.timezone {options : TaskOptions} (h : options.AreJson) :
    options.timezone.IsJson :=
  h ("timezone", options.timezone) (by simp [TaskOptions.toFields])

/-- What a new record is made of. -/
theorem Task.create_eq_ok {given : Value} {now : Moment} {issuer : Issuer}
    (h : (task.create given now issuer).1 = .ok record) :
    ∃ (options : TaskOptions) (metadata : TaskMetadata), task.options = .filled options ∧
      createMetadata task.metadata now = .ok metadata ∧
      record =
        { task with
          id := (chooseIdentifier given task.id issuer).1
          status := task.status.orElse (.status .pending)
          options := .filled { options with timezone := recordZone .null options.timezone }
          metadata := .filled metadata } := by
  rw [Task.create] at h
  cases hOptions : task.options with
  | other value =>
    rw [hOptions, createOptions] at h
    cases hZone : value.attribute? "timezone" with
    | none =>
      rw [hZone] at h
      cases h
    | some zone =>
      rw [hZone] at h
      cases h
  | filled options =>
    rw [hOptions, createOptions] at h
    simp only at h
    split at h
    · cases h
    · next metadata hMetadata =>
      exact ⟨options, metadata, rfl, hMetadata, (Except.ok.inj h).symm⟩

/-- **New records.** What is made of a plain task is a record. -/
theorem Task.isRecord_create (h : task.IsPlain) {issuer : Issuer}
    (hCreate : (task.create .null (.universal wall) issuer).1 = .ok record) : record.IsRecord := by
  obtain ⟨own, metadata, hOwn, hMetadata, rfl⟩ := Task.create_eq_ok hCreate
  obtain ⟨options, hOptions, hJson⟩ := h.options
  obtain rfl := Slot.filled.inj (hOwn.symm.trans hOptions)
  exact
    { id := isText_chooseIdentifier h.id issuer
      name := h.name
      status := isRecordedStatus_orElse h.status
      options := ⟨_, rfl, hJson.withZone (isJson_recordZone .null hJson.timezone)⟩
      metadata := ⟨_, rfl, isRecorded_createMetadata h.metadata hMetadata⟩ }

end create

/-! ## Updates -/

section update

variable {wall : Wall} {task record : Task}

/-- What is accepted for a part is a mapping with these fields. -/
theorem updateFields_eq_ok {part : UpdatePart} {given : Value} {fields : Fields Value}
    (h : updateFields part given = .ok fields) : given = .mapping fields := by
  cases given with
  | mapping own =>
    unfold updateFields at h
    dsimp only at h
    split at h
    · rw [Except.ok.inj h]
    · cases h
  | _ => cases h

/-- A reading in universal time is at the instant that it counts. -/
theorem instant?_universal (wall : Wall) :
    (Moment.universal wall).instant? = some (wall.count : Int) := by
  change some ((wall.count : Int) - 0) = _
  rw [Int.sub_zero]

/-- The moment of an update is now, or the one after the last update on its clock. -/
theorem advance_moment {last : Moment} {instant : Int} (h : last.instant? = some instant) :
    advance (.universal wall) (.moment last) =
      if (wall.count : Int) ≤ instant then (last.later? 1).mapError fun _ => .outOfCalendar
      else .ok (.universal wall) := by
  simp only [advance, instant?_universal, h]
  by_cases hLe : (wall.count : Int) ≤ instant
  · simp only [if_pos hLe]
    cases last.later? 1 <;> rfl
  · simp only [if_neg hLe]

/-- In universal time a stamp is advanced by a microsecond if the clock has not moved on. -/
theorem advance_universal (wall last : Wall) :
    advance (.universal wall) (.moment (.universal last)) =
      if wall.count ≤ last.count then
        match last.shift? 1 with
        | some next => .ok (.universal next)
        | none => .error .outOfCalendar
      else .ok (.universal wall) := by
  have hClock : (Moment.universal last).later? 1 =
      match last.shift? 1 with
      | some next => .ok (.universal next)
      | none => .error ⟨⟩ := rfl
  rw [advance_moment (instant?_universal last), hClock]
  simp only [Int.ofNat_le]
  cases last.shift? 1 <;> rfl

/-- A stamp in universal time is advanced to one in universal time. -/
theorem isUniversal_advance {last : Wall} {moment : Moment}
    (h : advance (.universal wall) (.moment (.universal last)) = .ok moment) :
    ∃ next, moment = .universal next := by
  rw [advance_universal] at h
  split at h
  · split at h
    · exact ⟨_, (Except.ok.inj h).symm⟩
    · cases h
  · exact ⟨wall, (Except.ok.inj h).symm⟩

/-- The clock of the last update stays that of the next one, unless that is now. -/
theorem isFixedMoment_advance {previous : Value} {moment : Moment} (h : previous.IsFixedMoment)
    (hAdvance : advance (.universal wall) previous = .ok moment) :
    (Value.moment moment).IsFixedMoment := by
  have hNow : (Value.moment (.universal wall)).IsFixedMoment := ⟨0, some "UTC", rfl, by decide⟩
  cases previous with
  | null =>
    obtain rfl := Except.ok.inj hAdvance
    exact hNow
  | moment last =>
    obtain ⟨offset, name, hClock, hOffset⟩ := h
    have hInstant : last.instant? = some ((last.wall.count : Int) - offset) := by
      rw [Moment.instant?, Moment.offset?, hClock]
      rfl
    rw [advance_moment hInstant] at hAdvance
    split at hAdvance
    · rw [mapError_eq_ok, Moment.later?] at hAdvance
      split at hAdvance
      · obtain rfl := Except.ok.inj hAdvance
        exact ⟨offset, name, hClock, hOffset⟩
      · cases hAdvance
    · obtain rfl := Except.ok.inj hAdvance
      exact hNow
  | _ => exact h.elim

/-- A recorded moment stays recorded when it is updated with a proper one. -/
theorem isRecordedMoment_updateMoment {given : Option Value} {stored : Value}
    (hGiven : ∀ value ∈ given, value.HasProperOffset) (hStored : stored.IsRecordedMoment) :
    (updateMoment given stored).IsRecordedMoment := by
  cases given with
  | none => exact hStored
  | some value =>
    rw [updateMoment, Value.orElse]
    split
    · exact isRecordedMoment_awareMoment (hGiven value rfl)
    · exact hStored

/-- Recorded metadata stay recorded when plain metadata are merged into them. -/
theorem TaskMetadata.isRecorded_updated {metadata updated : TaskMetadata} {fields : Fields Value}
    (h : metadata.IsRecorded) (hFields : PlainMetadata (Fields.get? fields))
    (hUpdate : metadata.updated fields (.universal wall) = .ok updated) : updated.IsRecorded := by
  obtain ⟨last, hLast⟩ := h.updatedAt
  rw [TaskMetadata.updated, hLast, bind_eq_ok] at hUpdate
  obtain ⟨moment, hMoment, hUpdated⟩ := hUpdate
  obtain rfl := Except.ok.inj hUpdated
  obtain ⟨next, rfl⟩ := isUniversal_advance hMoment
  exact
    { runCount := by
        simp only
        cases hCount : fields.get? "run_count" with
        | none => exact h.runCount
        | some value => exact hFields.runCount value hCount
      lastRun := isRecordedMoment_updateMoment hFields.lastRun h.lastRun
      nextRun := isRecordedMoment_updateMoment hFields.nextRun h.nextRun
      lastError := by
        simp only
        cases hError : fields.get? "last_error" with
        | none => exact h.lastError
        | some value => exact hFields.lastError value hError
      createdAt := h.createdAt
      updatedAt := ⟨next, rfl⟩ }

theorem plainMetadata_nil : PlainMetadata (Fields.get? []) where
  runCount := nofun
  lastRun := nofun
  nextRun := nofun
  lastError := nofun

/-- Metadata, or those of a task that has none, are updated with the fields of the update. -/
theorem updateMetadata_of_metadataOrNone {slot : Slot TaskMetadata} {metadata : TaskMetadata}
    (h : slot.metadataOrNone = .filled metadata) (given : Value) (now : Moment) :
    updateMetadata slot given now =
      (if given.isNull then .ok [] else updateFields .metadata given) >>= fun fields =>
        metadata.updated fields now := by
  rw [updateMetadata, h]
  cases given.isNull with
  | true => rfl
  | false => rfl

/-- Metadata are updated with the fields that are given, or with none. -/
theorem updateMetadata_eq_ok {metadata updated : TaskMetadata} {given : Value} {now : Moment}
    (h : updateMetadata (.filled metadata) given now = .ok updated) :
    ∃ fields, (fields = [] ∨ given = .mapping fields) ∧
      metadata.updated fields now = .ok updated := by
  rw [updateMetadata_of_metadataOrNone rfl, bind_eq_ok] at h
  obtain ⟨fields, hFields, hUpdated⟩ := h
  refine ⟨fields, ?_, hUpdated⟩
  split at hFields
  · exact .inl (Except.ok.inj hFields).symm
  · exact .inr (updateFields_eq_ok hFields)

/-- Recorded metadata stay recorded when they are updated with plain ones. -/
theorem isRecorded_updateMetadata {metadata updated : TaskMetadata} {given : Value}
    (h : metadata.IsRecorded)
    (hGiven : ∀ fields, given = .mapping fields → PlainMetadata (Fields.get? fields))
    (hUpdate : updateMetadata (.filled metadata) given (.universal wall) = .ok updated) :
    updated.IsRecorded := by
  obtain ⟨fields, hFields, hUpdated⟩ := updateMetadata_eq_ok hUpdate
  refine TaskMetadata.isRecorded_updated h ?_ hUpdated
  rcases hFields with rfl | hFields
  · exact plainMetadata_nil
  · exact hGiven fields hFields

/-- The status after an update is the stored one, or one that there is. -/
theorem updateStatus_eq_ok {given : Option Value} {stored status : Value}
    (h : updateStatus given stored = .ok status) :
    status = stored ∨ ∃ token, status = .status token := by
  unfold updateStatus at h
  split at h
  · exact .inl (Except.ok.inj h).symm
  · split at h
    · exact .inr ⟨_, (Except.ok.inj h).symm⟩
    · cases h

/-- A recorded status stays recorded when it is updated. -/
theorem isRecordedStatus_updateStatus {given : Option Value} {stored status : Value}
    (h : stored.IsRecordedStatus) (hUpdate : updateStatus given stored = .ok status) :
    status.IsRecordedStatus := by
  rcases updateStatus_eq_ok hUpdate with rfl | ⟨token, rfl⟩
  · exact h
  · trivial

/-- Options with other values of JSON texts can be stored. -/
theorem TaskOptions.AreJson.replaced {options : TaskOptions} (h : options.AreJson)
    {fields : Fields Value}
    (hFields : HasJsonValues fields) :
    (options.replaced fields).AreJson := by
  have hGet : ∀ {name : String} {own : Value}, own.IsJson → ((fields.get? name).getD own).IsJson := by
    intro name own hOwn
    cases hValue : fields.get? name with
    | none => exact hOwn
    | some value => exact hFields _ value hValue
  unfold TaskOptions.AreJson TaskOptions.toFields at h ⊢
  simp only [List.forall_mem_cons] at h ⊢
  obtain ⟨h₁, h₂, h₃, h₄, h₅, h₆, h₇, hNil⟩ := h
  exact ⟨hGet h₁, hGet h₂, hGet h₃, hGet h₄, hGet h₅, hGet h₆, hGet h₇, hNil⟩

/-- The zone that is given with JSON values is one, or `null`. -/
theorem isJson_givenZone {fields : Fields Value}
    (hFields : HasJsonValues fields) :
    ((fields.get? "timezone").getD .null).IsJson := by
  cases hZone : fields.get? "timezone" with
  | none => exact .null
  | some value => exact hFields _ value hZone

/-- What an update makes of options: they stay, or some of them are replaced and the zone stays if no
other one is given. -/
theorem updateOptions_eq_ok {options : TaskOptions} {slot : Slot TaskOptions} {given : Value}
    (h : updateOptions (.filled options) given = .ok slot) :
    slot = .filled options ∨ ∃ fields : Fields Value, given = .mapping fields ∧
      slot = .filled { options.replaced fields with
        timezone := recordZone ((fields.get? "timezone").getD .null) options.timezone } := by
  unfold updateOptions at h
  split at h
  · exact .inl (Except.ok.inj h).symm
  · rw [bind_eq_ok] at h
    obtain ⟨fields, hFields, h⟩ := h
    exact .inr ⟨fields, updateFields_eq_ok hFields, (Except.ok.inj h).symm⟩

/-- Options stay storable when they are updated with JSON values. -/
theorem areJson_updateOptions {options : TaskOptions} {slot : Slot TaskOptions} {given : Value}
    (h : options.AreJson)
    (hGiven : ∀ fields, given = .mapping fields → HasJsonValues fields)
    (hUpdate : updateOptions (.filled options) given = .ok slot) :
    ∃ updated, slot = .filled updated ∧ updated.AreJson := by
  rcases updateOptions_eq_ok hUpdate with rfl | ⟨fields, rfl, rfl⟩
  · exact ⟨options, rfl, h⟩
  · have hJson := hGiven fields rfl
    exact ⟨_, rfl,
      (h.replaced hJson).withZone (isJson_recordZone (isJson_givenZone hJson) h.timezone)⟩

/-- An update can be recorded, if it is a mapping. -/
def Value.IsPlainUpdate (updates : Value) : Prop :=
  ∀ fields, updates = .mapping fields → PlainUpdate fields

/-- A part of an update that is a mapping is the one under its name. -/
theorem get?_of_getD_eq_mapping {fields : Fields Value} {name : String} {part : Fields Value}
    (h : (fields.get? name).getD .null = .mapping part) : fields.get? name = some (.mapping part) := by
  cases hGet : fields.get? name with
  | none =>
    rw [hGet] at h
    cases h
  | some value =>
    rw [hGet] at h
    rw [← h]
    rfl

/-- What an update makes of a record. -/
theorem Task.update_eq_ok {options : TaskOptions} {metadata : TaskMetadata} {updates : Value}
    {now : Moment} (hOptions : task.options = .filled options)
    (hMetadata : task.metadata = .filled metadata) (h : task.update updates now = .ok record) :
    ∃ (fields : Fields Value) (status : Value) (slot : Slot TaskOptions) (updated : TaskMetadata),
      updates = .mapping fields ∧
      updateStatus (fields.get? "status") task.status = .ok status ∧
      updateOptions (.filled options) ((fields.get? "options").getD .null) = .ok slot ∧
      updateMetadata (.filled metadata) ((fields.get? "metadata").getD .null) now = .ok updated ∧
      record =
        { id := task.id
          name := (fields.get? "name").getD task.name
          status := status
          execute := (fields.get? "execute").getD task.execute
          options := slot
          metadata := .filled updated } := by
  simp only [Task.update, hOptions, hMetadata, bind_eq_ok] at h
  obtain ⟨fields, hFields, status, hStatus, slot, hSlot, updated, hUpdated, h⟩ := h
  exact ⟨fields, status, slot, updated, updateFields_eq_ok hFields, hStatus, hSlot, hUpdated,
    (Except.ok.inj h).symm⟩

/-- An update keeps the identifier. -/
theorem Task.id_of_update {updates : Value} {now : Moment} (h : task.update updates now = .ok record) :
    record.id = task.id := by
  simp only [Task.update, bind_eq_ok] at h
  obtain ⟨fields, -, status, -, slot, -, updated, -, h⟩ := h
  obtain rfl := Except.ok.inj h
  rfl

/-- **Updated records.** A plain update of a record is a record. -/
theorem Task.isRecord_update (h : task.IsRecord) {updates : Value} (hPlain : updates.IsPlainUpdate)
    (hUpdate : task.update updates (.universal wall) = .ok record) : record.IsRecord := by
  obtain ⟨options, hOptions, hJson⟩ := h.options
  obtain ⟨metadata, hMetadata, hRecorded⟩ := h.metadata
  obtain ⟨fields, status, slot, updated, hFields, hStatus, hSlot, hUpdated, rfl⟩ :=
    Task.update_eq_ok hOptions hMetadata hUpdate
  have hGiven := hPlain fields hFields
  exact
    { id := h.id
      name := by
        simp only
        cases hName : fields.get? "name" with
        | none => exact h.name
        | some value => exact hGiven.name value hName
      status := isRecordedStatus_updateStatus h.status hStatus
      options := areJson_updateOptions hJson
        (fun part hPart => hGiven.options part (get?_of_getD_eq_mapping hPart)) hSlot
      metadata := ⟨updated, rfl, isRecorded_updateMetadata hRecorded
        (fun part hPart => hGiven.metadata part (get?_of_getD_eq_mapping hPart)) hUpdated⟩ }

end update

/-! ## Records that are stored and read back -/

section restored

variable {task : Task} {value : Value}

/-- A recorded moment has a proper offset. -/
theorem hasProperOffset_of_isRecordedMoment (h : value.IsRecordedMoment) :
    value.HasProperOffset := by
  cases value with
  | null => trivial
  | moment m => exact h.1
  | _ => exact h.elim

/-- A moment in universal time has a proper offset. -/
theorem hasProperOffset_of_isUniversalMoment (h : value.IsUniversalMoment) :
    value.HasProperOffset := by
  obtain ⟨wall, rfl⟩ := h
  rintro offset ⟨⟩
  decide

/-- Universal time has a fixed offset. -/
theorem isFixedMoment_of_isUniversalMoment (h : value.IsUniversalMoment) : value.IsFixedMoment := by
  obtain ⟨wall, rfl⟩ := h
  exact ⟨0, some "UTC", rfl, by decide⟩

/-- A moment on the clock of a fixed offset can be recorded. -/
theorem isRecordedMoment_of_isFixedMoment (h : value.IsFixedMoment) : value.IsRecordedMoment := by
  cases value with
  | null => trivial
  | moment m =>
    obtain ⟨offset, name, hClock, hOffset⟩ := h
    constructor
    · intro own hOwn
      rw [Moment.offset?, hClock] at hOwn
      rwa [← Option.some.inj hOwn]
    · rw [Moment.isNaive, hClock]
      rfl
  | _ => exact h.elim

/-- A plain error can be stored. -/
theorem isStorableFailure_of_isPlainFailure (h : value.IsPlainFailure) :
    value.IsStorableFailure := by
  cases value with
  | null => trivial
  | failure kind message => trivial
  | taskFailure kind message =>
    rcases h with rfl | ⟨s, rfl⟩
    · exact .null
    · exact .text s
  | _ => exact h.elim

/-- Recorded metadata can be stored. -/
theorem TaskMetadata.IsRecorded.isStorable {metadata : TaskMetadata} (h : metadata.IsRecorded) :
    metadata.IsStorable where
  runCount := h.runCount
  lastError := isStorableFailure_of_isPlainFailure h.lastError
  moments := by
    simp only [List.forall_mem_cons]
    exact ⟨hasProperOffset_of_isRecordedMoment h.lastRun,
      hasProperOffset_of_isRecordedMoment h.nextRun,
      hasProperOffset_of_isUniversalMoment h.createdAt,
      hasProperOffset_of_isUniversalMoment h.updatedAt, List.forall_mem_nil _⟩

/-- A recorded status is a state or a JSON value. -/
theorem isJson_or_status_of_isRecordedStatus (h : value.IsRecordedStatus) :
    value.IsJson ∨ ∃ status, value = .status status := by
  cases value with
  | status s => exact .inr ⟨s, rfl⟩
  | text s => exact .inl (.text s)
  | _ => exact h.elim

/-- A record can be stored. -/
theorem Task.IsRecord.isStorable (h : task.IsRecord) : task.IsStorable where
  id := by
    obtain ⟨s, hText⟩ := h.id
    rw [hText]
    exact .text s
  name := by
    obtain ⟨s, hText⟩ := h.name
    rw [hText]
    exact .text s
  status := isJson_or_status_of_isRecordedStatus h.status
  options := h.options
  metadata := by
    obtain ⟨metadata, hMetadata, hRecorded⟩ := h.metadata
    exact .inr ⟨metadata, hMetadata, hRecorded.isStorable⟩

/-- What is left of a recorded moment can be recorded. -/
theorem isRecordedMoment_restoredMoment (h : value.IsRecordedMoment) :
    (restoredMoment value).IsRecordedMoment := by
  cases value with
  | null => trivial
  | moment m =>
    refine ⟨m.isProper_restored h.1, ?_⟩
    rcases m.restored_cases with hUniversal | ⟨offset, -, -, hFixed⟩
    · rw [hUniversal]
      rfl
    · rw [hFixed]
      rfl
  | _ => exact h.elim

/-- All is left of a moment in universal time. -/
theorem restoredMoment_of_isUniversalMoment (h : value.IsUniversalMoment) :
    restoredMoment value = value := by
  obtain ⟨wall, rfl⟩ := h
  rfl

/-- The name of the kind of an error of a record is a text. -/
theorem exists_failureKind_eq_text (h : value.IsPlainFailure) (hError : value.isNull = false) :
    ∃ s, failureKind value = .text s := by
  cases value with
  | null => cases hError
  | failure kind message => exact ⟨kind, rfl⟩
  | taskFailure kind message =>
    rcases h with rfl | ⟨s, rfl⟩
    · exact ⟨"TaskError", rfl⟩
    · unfold failureKind Value.orElse
      split
      · exact ⟨s, rfl⟩
      · exact ⟨_, rfl⟩
  | _ => exact h.elim

/-- What is left of a plain error is plain. -/
theorem isPlainFailure_restoredFailure (h : value.IsPlainFailure) :
    (restoredFailure value).IsPlainFailure := by
  cases hNull : value.isNull with
  | true =>
    rw [restoredFailure, if_pos hNull]
    trivial
  | false =>
    obtain ⟨s, hKind⟩ := exists_failureKind_eq_text h hNull
    rw [restoredFailure_of_ne_null hNull, hKind, Value.orElse]
    split
    · exact .inr ⟨s, rfl⟩
    · exact .inr ⟨_, rfl⟩

/-- A recorded status is not written as an empty text. -/
theorem isTruthy_encodeStatus (h : value.IsRecordedStatus) :
    (encodeStatus value).isTruthy = true := by
  cases value with
  | status s => cases s <;> decide
  | text s =>
    have hText : (encodeStatus (.text s)).isTruthy = !s.isEmpty := rfl
    rw [hText, (h : s.isEmpty = false)]
    rfl
  | _ => exact h.elim

/-- What is left of a recorded status can be recorded. -/
theorem isRecordedStatus_restoredStatus (h : value.IsRecordedStatus) :
    (restoredStatus value).IsRecordedStatus := by
  cases value with
  | status s =>
    have hSame : restoredStatus (.status s) = .status s := by cases s <;> rfl
    rw [hSame]
    trivial
  | text s =>
    have hText : encodeStatus (.text s) = .text s := rfl
    rw [restoredStatus, orElse_of_isTruthy (isTruthy_encodeStatus h), hText, decodeStatus]
    split
    · trivial
    · exact h
  | _ => exact h.elim

/-- What is left of recorded metadata can be recorded. -/
theorem TaskMetadata.IsRecorded.restored {metadata : TaskMetadata} (h : metadata.IsRecorded) :
    metadata.restored.IsRecorded where
  runCount := h.runCount
  lastRun := isRecordedMoment_restoredMoment h.lastRun
  nextRun := isRecordedMoment_restoredMoment h.nextRun
  lastError := isPlainFailure_restoredFailure h.lastError
  createdAt := by
    rw [TaskMetadata.restored, restoredMoment_of_isUniversalMoment h.createdAt]
    exact h.createdAt
  updatedAt := by
    rw [TaskMetadata.restored, restoredMoment_of_isUniversalMoment h.updatedAt]
    exact h.updatedAt

/-- What is read back of a record is a record. -/
theorem Task.IsRecord.restored (h : task.IsRecord) : task.restored.IsRecord where
  id := h.id
  name := h.name
  status := isRecordedStatus_restoredStatus h.status
  options := h.options
  metadata := by
    obtain ⟨metadata, hMetadata, hRecorded⟩ := h.metadata
    refine ⟨metadata.restored, ?_, hRecorded.restored⟩
    rw [Task.restored, hMetadata]
    rfl

end restored

end Crontab
