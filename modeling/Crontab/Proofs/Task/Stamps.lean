import Crontab.Proofs.Task.Records
import Crontab.Proofs.Time.FirstPass
import Crontab.Proofs.Value.Proper

/-!
# The stamps of records

A store stamps its records: with an identifier, a zone, and the moments at which they were created
and last updated.  An update may ask for anything, but it keeps the identifier and the moment of
creation, it comes after the last update even if the clock stands still or is set back, and a task
that has run has run.

* `Task.IsStamped`, `Task.IsNewAt` — stamped records, and those that were not updated yet;
* `Task.Precedes` — what an update changes of the stamps;
* `Task.isStamped_create`, `Task.IsStamped.update` — records are stamped from their creation on;
* `Task.IsProper` — tasks of proper values, which make proper records.
-/

namespace Crontab

open Time

/-! ## Stamps -/

/-- The metadata of a record: its runs are told on clocks of known offsets, and the moments of its
creation and of its last update, which is not before, in universal time. -/
structure TaskMetadata.IsStamped (metadata : TaskMetadata) : Prop where
  lastRun : metadata.lastRun.IsRecordedMoment
  nextRun : metadata.nextRun.IsRecordedMoment
  stamps : ∃ created updated : Wall, metadata.createdAt = .moment (.universal created) ∧
    metadata.updatedAt = .moment (.universal updated) ∧ created.count ≤ updated.count

/-- The record has an identifier, a zone, and stamped metadata. -/
structure Task.IsStamped (task : Task) : Prop where
  id : ∃ s, task.id = .text s
  options : ∃ options, task.options = .filled options ∧ options.timezone.isTruthy = true
  metadata : ∃ metadata, task.metadata = .filled metadata ∧ metadata.IsStamped

/-- The parts of the task that an update changes are there, and the last update is told on the clock of a
fixed offset. -/
structure Task.IsUpdatable (task : Task) : Prop where
  options : ∃ options, task.options = .filled options
  metadata : ∃ metadata, task.metadata = .filled metadata ∧ metadata.updatedAt.IsFixedMoment

/-- The record was created at a moment, and not updated since. -/
def Task.IsNewAt (task : Task) (wall : Wall) : Prop :=
  task.metadata.metadataRecord.createdAt = .moment (.universal wall) ∧
    task.metadata.metadataRecord.updatedAt = .moment (.universal wall)

/-- Later metadata of the same record: the moment of its creation stays, the moment of its last update
has moved on, and where there was a run there is one. -/
structure TaskMetadata.Precedes (metadata later : TaskMetadata) : Prop where
  createdAt : later.createdAt = metadata.createdAt
  updatedAt : ∃ earlier updated : Wall, metadata.updatedAt = .moment (.universal earlier) ∧
    later.updatedAt = .moment (.universal updated) ∧ earlier.count < updated.count
  lastRun : metadata.lastRun.isMoment = true → later.lastRun.isMoment = true
  nextRun : metadata.nextRun.isMoment = true → later.nextRun.isMoment = true

/-- A later state of the same record. -/
structure Task.Precedes (task later : Task) : Prop where
  id : later.id = task.id
  metadata : task.metadata.metadataRecord.Precedes later.metadata.metadataRecord

section order

variable {task other last : Task}

/-- Precedence is transitive on metadata. -/
theorem TaskMetadata.Precedes.trans {metadata other last : TaskMetadata}
    (h : metadata.Precedes other) (h' : other.Precedes last) : metadata.Precedes last where
  createdAt := h'.createdAt.trans h.createdAt
  updatedAt := by
    obtain ⟨earlier, middle, hEarlier, hMiddle, hFirst⟩ := h.updatedAt
    obtain ⟨middle', updated, hMiddle', hUpdated, hSecond⟩ := h'.updatedAt
    have hSame : middle = middle' :=
      congrArg Moment.wall (Value.moment.inj (hMiddle.symm.trans hMiddle'))
    exact ⟨earlier, updated, hEarlier, hUpdated, hFirst.trans (hSame ▸ hSecond)⟩
  lastRun := fun hRun => h'.lastRun (h.lastRun hRun)
  nextRun := fun hRun => h'.nextRun (h.nextRun hRun)

/-- A stamped record has metadata in their place. -/
theorem Task.IsStamped.metadata_eq (h : task.IsStamped) :
    task.metadata = .filled task.metadata.metadataRecord := by
  obtain ⟨metadata, hMetadata, -⟩ := h.metadata
  rw [hMetadata]
  rfl

/-- The metadata of a stamped record are stamped. -/
theorem Task.IsStamped.isStamped_metadataRecord (h : task.IsStamped) :
    task.metadata.metadataRecord.IsStamped := by
  obtain ⟨metadata, hMetadata, hStamped⟩ := h.metadata
  rw [hMetadata]
  exact hStamped

/-- A stamped record can be updated. -/
theorem Task.IsStamped.isUpdatable (h : task.IsStamped) : task.IsUpdatable := by
  obtain ⟨options, hOptions, -⟩ := h.options
  obtain ⟨metadata, hMetadata, hStamped⟩ := h.metadata
  obtain ⟨-, updated, -, hUpdated, -⟩ := hStamped.stamps
  exact ⟨⟨options, hOptions⟩, metadata, hMetadata,
    isFixedMoment_of_isUniversalMoment ⟨updated, hUpdated⟩⟩

/-- Precedence is transitive on the states of a record. -/
theorem Task.Precedes.trans (h : task.Precedes other) (h' : other.Precedes last) :
    task.Precedes last :=
  ⟨h'.id.trans h.id, h.metadata.trans h'.metadata⟩

end order

/-! ## Proper tasks -/

/-- The parts of the task are proper values. -/
structure Task.IsProper (task : Task) : Prop where
  id : task.id.IsProper
  name : task.name.IsProper
  status : task.status.IsProper
  execute : task.execute.IsProper
  options : task.options.optionsValue.IsProper
  metadata : task.metadata.metadataValue.IsProper

section proper

open Value

variable {value other : Value} {fields : Fields Value}

/-- A proper moment has a proper offset. -/
theorem hasProperOffset_of_isProper (h : value.IsProper) : value.HasProperOffset := by
  cases value with
  | moment m => exact h
  | _ => trivial

/-- A recorded moment is proper. -/
theorem isProper_of_isRecordedMoment (h : value.IsRecordedMoment) : value.IsProper := by
  cases value with
  | null => trivial
  | moment m => exact h.1
  | _ => exact h.elim

/-- A proper moment stays proper when it is read in universal time if it is naive. -/
theorem isProper_awareMoment (h : value.IsProper) : (awareMoment value).IsProper :=
  isProper_of_isRecordedMoment (isRecordedMoment_awareMoment (hasProperOffset_of_isProper h))

theorem isProper_universal (wall : Wall) : (Value.moment (.universal wall)).IsProper :=
  hasProperOffset_of_isUniversalMoment ⟨wall, rfl⟩

/-- The zone of a record is proper if the given and the stored one are. -/
theorem isProper_recordZone (hGiven : value.IsProper) (hStored : other.IsProper) :
    (recordZone value other).IsProper :=
  hGiven.orElse (hStored.orElse trivial)

/-- A proper moment stays proper when it is updated with a proper one. -/
theorem isProper_updateMoment {given : Option Value} (hGiven : ∀ value ∈ given, value.IsProper)
    (hStored : other.IsProper) : (updateMoment given other).IsProper := by
  cases given with
  | none => exact hStored
  | some value => exact (isProper_awareMoment (hGiven value rfl)).orElse hStored

/-- A proper status stays proper when it is updated. -/
theorem isProper_updateStatus {given : Option Value} {status : Value} (h : other.IsProper)
    (hUpdate : updateStatus given other = .ok status) : status.IsProper := by
  rcases updateStatus_eq_ok hUpdate with rfl | ⟨token, rfl⟩
  · exact h
  · trivial

/-- Proper options stay proper with a proper zone. -/
theorem TaskOptions.haveProperValues_withZone {options : TaskOptions}
    (h : HaveProperValues options.toFields) (hZone : value.IsProper) :
    HaveProperValues { options with timezone := value }.toFields :=
  ⟨h.1, hZone, h.2.2⟩

/-- Proper options stay proper when proper fields are replaced in them. -/
theorem TaskOptions.haveProperValues_replaced {options : TaskOptions}
    (h : HaveProperValues options.toFields) (hFields : HaveProperValues fields) :
    HaveProperValues (options.replaced fields).toFields := by
  obtain ⟨h₁, h₂, h₃, h₄, h₅, h₆, h₇, -⟩ := h
  exact ⟨hFields.getD _ h₁, hFields.getD _ h₂, hFields.getD _ h₃, hFields.getD _ h₄,
    hFields.getD _ h₅, hFields.getD _ h₆, hFields.getD _ h₇, trivial⟩

/-- Proper metadata stay proper when proper fields are replaced in them. -/
theorem TaskMetadata.haveProperValues_replaced {metadata : TaskMetadata}
    (h : HaveProperValues metadata.toFields) (hFields : HaveProperValues fields) :
    HaveProperValues (metadata.replaced fields).toFields := by
  obtain ⟨h₁, h₂, h₃, h₄, h₅, h₆, -⟩ := h
  exact ⟨hFields.getD _ h₁, hFields.getD _ h₂, hFields.getD _ h₃, hFields.getD _ h₄,
    hFields.getD _ h₅, hFields.getD _ h₆, trivial⟩

theorem TaskMetadata.haveProperValues_default : HaveProperValues (TaskMetadata.toFields {}) :=
  ⟨trivial, trivial, trivial, trivial, trivial, trivial, trivial⟩

/-- The attributes of a proper value are proper. -/
theorem haveProperValues_attributesUnder? (h : value.IsProper) {names : List String}
    (hFields : attributesUnder? value names = some fields) : HaveProperValues fields := by
  induction names generalizing fields with
  | nil =>
    rw [← Option.some.inj hFields]
    trivial
  | cons name names ih =>
    obtain ⟨first, rest, rfl, hFirst, hRest⟩ := attributesUnder?_cons_eq_some hFields
    exact ⟨h.attribute? hFirst, ih hRest⟩

/-- Metadata made from proper ones are proper. -/
theorem TaskMetadata.haveProperValues_created {source : TaskMetadata}
    (h : HaveProperValues source.toFields) (wall : Wall) :
    HaveProperValues (source.created (.universal wall)).toFields := by
  obtain ⟨hCount, hLast, hNext, hError, -⟩ := h
  refine ⟨?_, isProper_awareMoment hLast, isProper_awareMoment hNext, hError,
    isProper_universal wall, isProper_universal wall, trivial⟩
  unfold TaskMetadata.created
  by_cases hNull : source.runCount.isNull = true
  · rw [if_pos hNull]
    trivial
  · rw [if_neg hNull]
    exact hCount

/-- The metadata of a proper task become those of its record. -/
theorem exists_created_of_isProper {slot : Slot TaskMetadata} {metadata : TaskMetadata} {now : Moment}
    (h : slot.metadataValue.IsProper) (hCreate : createMetadata slot now = .ok metadata) :
    ∃ source : TaskMetadata, metadata = source.created now ∧ HaveProperValues source.toFields := by
  obtain ⟨source, rfl, rfl | rfl | ⟨value, fields, rfl, hFields, rfl⟩⟩ :=
    createMetadata_eq_ok hCreate
  · exact ⟨source, rfl, h⟩
  · exact ⟨{}, rfl, TaskMetadata.haveProperValues_default⟩
  · exact ⟨_, rfl, TaskMetadata.haveProperValues_replaced TaskMetadata.haveProperValues_default
      (haveProperValues_attributesUnder? h hFields)⟩

/-- The record of a proper task is proper. -/
theorem Task.IsProper.create {task record : Task} {wall : Wall} {issuer : Issuer}
    (h : task.IsProper) (hCreate : (task.create .null (.universal wall) issuer).1 = .ok record) :
    record.IsProper := by
  obtain ⟨options, metadata, hOptions, hMetadata, rfl⟩ := Task.create_eq_ok hCreate
  have hProper : HaveProperValues options.toFields := by
    have hSlot := h.options
    rw [hOptions] at hSlot
    exact hSlot
  refine ⟨?_, h.name, h.status.orElse trivial, h.execute, ?_, ?_⟩
  · unfold chooseIdentifier
    rw [if_neg (by decide)]
    split
    · exact h.id
    · trivial
  · exact TaskOptions.haveProperValues_withZone hProper (isProper_recordZone trivial hProper.2.1)
  · obtain ⟨source, rfl, hSource⟩ := exists_created_of_isProper h.metadata hMetadata
    exact TaskMetadata.haveProperValues_created hSource wall

/-- What an update makes of options and metadata of proper values. -/
theorem haveProperValues_updateOptions {options : TaskOptions} {slot : Slot TaskOptions}
    (h : HaveProperValues options.toFields) (hGiven : value.IsProper)
    (hUpdate : updateOptions (.filled options) value = .ok slot) : slot.optionsValue.IsProper := by
  rcases updateOptions_eq_ok hUpdate with rfl | ⟨fields, rfl, rfl⟩
  · exact h
  · exact TaskOptions.haveProperValues_withZone (TaskOptions.haveProperValues_replaced h hGiven.2)
      (isProper_recordZone (hGiven.2.getD _ trivial) h.2.1)

/-- Updated metadata have the fields that are given, and the stamp is advanced. -/
theorem TaskMetadata.updated_eq_ok {metadata updated : TaskMetadata} {now : Moment}
    (h : metadata.updated fields now = .ok updated) :
    ∃ moment, advance now metadata.updatedAt = .ok moment ∧
      updated =
        { runCount := (fields.get? "run_count").getD metadata.runCount
          lastRun := updateMoment (fields.get? "last_run") metadata.lastRun
          nextRun := updateMoment (fields.get? "next_run") metadata.nextRun
          lastError := (fields.get? "last_error").getD metadata.lastError
          createdAt := metadata.createdAt
          updatedAt := .moment moment } := by
  rw [TaskMetadata.updated, bind_eq_ok] at h
  obtain ⟨moment, hMoment, h⟩ := h
  exact ⟨moment, hMoment, (Except.ok.inj h).symm⟩

/-- The moment of an update comes after that of the last one. -/
theorem count_lt_of_advance {wall last : Wall} {moment : Moment}
    (h : advance (.universal wall) (.moment (.universal last)) = .ok moment) :
    ∃ next : Wall, moment = .universal next ∧ last.count < next.count := by
  rw [advance_universal] at h
  by_cases hPast : wall.count ≤ last.count
  · rw [if_pos hPast] at h
    cases hNext : last.shift? 1 with
    | none =>
      rw [hNext] at h
      cases h
    | some next =>
      rw [hNext] at h
      refine ⟨next, (Except.ok.inj h).symm, ?_⟩
      have hCount := Wall.shift?_eq_some_iff.1 hNext
      omega
  · rw [if_neg hPast] at h
    exact ⟨wall, (Except.ok.inj h).symm, Nat.lt_of_not_le hPast⟩

/-- Proper metadata stay proper when they are updated with proper values. -/
theorem haveProperValues_updateMetadata {metadata updated : TaskMetadata} {wall : Wall}
    (h : HaveProperValues metadata.toFields) (hLast : metadata.updatedAt.IsFixedMoment)
    (hGiven : value.IsProper)
    (hUpdate : updateMetadata (.filled metadata) value (.universal wall) = .ok updated) :
    HaveProperValues updated.toFields := by
  obtain ⟨fields, hFields, hUpdated⟩ := updateMetadata_eq_ok hUpdate
  have hProper : HaveProperValues fields := by
    rcases hFields with rfl | rfl
    · trivial
    · exact hGiven.2
  have hGet : ∀ name, ∀ given ∈ Fields.get? fields name, given.IsProper :=
    fun _ _ hValue => hProper.get? hValue
  obtain ⟨moment, hMoment, rfl⟩ := TaskMetadata.updated_eq_ok hUpdated
  have hNext := isRecordedMoment_of_isFixedMoment (isFixedMoment_advance hLast hMoment)
  obtain ⟨hCount, hLastRun, hNextRun, hError, hCreated, -⟩ := h
  exact ⟨hProper.getD _ hCount, isProper_updateMoment (hGet _) hLastRun,
    isProper_updateMoment (hGet _) hNextRun, hProper.getD _ hError, hCreated,
    isProper_of_isRecordedMoment hNext, trivial⟩

/-- A proper update of a proper record is proper. -/
theorem Task.IsProper.update {task record : Task} {updates : Value} {wall : Wall} (h : task.IsProper)
    (hParts : task.IsUpdatable) (hUpdates : updates.IsProper)
    (hUpdate : task.update updates (.universal wall) = .ok record) : record.IsProper := by
  obtain ⟨options, hOptions⟩ := hParts.options
  obtain ⟨metadata, hMetadata, hLast⟩ := hParts.metadata
  obtain ⟨fields, status, slot, updated, rfl, hStatus, hSlot, hUpdated, rfl⟩ :=
    Task.update_eq_ok hOptions hMetadata hUpdate
  have hPart : ∀ name, ((Fields.get? fields name).getD .null).IsProper :=
    fun name => hUpdates.2.getD name trivial
  have hOptionsProper := h.options
  rw [hOptions] at hOptionsProper
  have hMetadataProper := h.metadata
  rw [hMetadata] at hMetadataProper
  exact
    { id := h.id
      name := hUpdates.2.getD _ h.name
      status := isProper_updateStatus h.status hStatus
      execute := hUpdates.2.getD _ h.execute
      options := haveProperValues_updateOptions hOptionsProper (hPart "options") hSlot
      metadata := haveProperValues_updateMetadata hMetadataProper hLast (hPart "metadata") hUpdated }

end proper

/-! ## Stamped records -/

section stamped

variable {task record : Task} {wall : Wall}

/-- A record always has a zone. -/
theorem isTruthy_recordZone (given stored : Value) : (recordZone given stored).isTruthy = true := by
  have hZone : (Value.text "UTC").isTruthy = true := by decide
  exact isTruthy_orElse given (isTruthy_orElse stored hZone)

/-- **Creation.** A new record is stamped with the time. -/
theorem Task.isStamped_create {issuer : Issuer} (hId : task.id = .null ∨ ∃ s, task.id = .text s)
    (hProper : task.IsProper)
    (hCreate : (task.create .null (.universal wall) issuer).1 = .ok record) :
    record.IsStamped ∧ record.IsNewAt wall := by
  obtain ⟨options, metadata, hOptions, hMetadata, rfl⟩ := Task.create_eq_ok hCreate
  obtain ⟨source, rfl, -, hLast, hNext, -⟩ := exists_created_of_isProper hProper.metadata hMetadata
  have hMoments : (source.created (.universal wall)).IsStamped :=
    { lastRun := isRecordedMoment_awareMoment (hasProperOffset_of_isProper hLast)
      nextRun := isRecordedMoment_awareMoment (hasProperOffset_of_isProper hNext)
      stamps := ⟨wall, wall, rfl, rfl, Nat.le_refl _⟩ }
  have hZone : (recordZone .null options.timezone).isTruthy = true := isTruthy_recordZone _ _
  exact ⟨⟨isText_chooseIdentifier hId issuer, ⟨_, rfl, hZone⟩, _, rfl, hMoments⟩, rfl, rfl⟩

/-- A moment that counts in an update is the new one, and the stored one stays otherwise. -/
theorem isMoment_updateMoment {stored : Value} (given : Option Value)
    (h : stored.isMoment = true) : (updateMoment given stored).isMoment = true := by
  cases given with
  | none => exact h
  | some value =>
    rw [updateMoment, Value.orElse]
    split
    · next hTruthy =>
      cases value with
      | moment m => rfl
      | _ => cases hTruthy
    · exact h

/-- The fields of a proper update have proper offsets. -/
theorem hasProperOffset_updateFields {given : Value} {fields : Fields Value}
    (h : fields = [] ∨ given = .mapping fields) (hGiven : given.IsProper) (name : String) :
    ∀ value ∈ Fields.get? fields name, value.HasProperOffset := by
  intro value hValue
  rcases h with rfl | rfl
  · cases hValue
  · exact hasProperOffset_of_isProper (hGiven.2.get? hValue)

/-- Updated metadata are stamped, and the former ones precede them. -/
theorem TaskMetadata.IsStamped.update {metadata updated : TaskMetadata} {given : Value}
    (h : metadata.IsStamped) (hGiven : given.IsProper)
    (hUpdate : updateMetadata (.filled metadata) given (.universal wall) = .ok updated) :
    updated.IsStamped ∧ metadata.Precedes updated := by
  obtain ⟨fields, hFields, hUpdated⟩ := updateMetadata_eq_ok hUpdate
  have hOffset := hasProperOffset_updateFields hFields hGiven
  obtain ⟨moment, hMoment, rfl⟩ := TaskMetadata.updated_eq_ok hUpdated
  obtain ⟨created, last, hCreated, hLast, hOrder⟩ := h.stamps
  rw [hLast] at hMoment
  obtain ⟨next, rfl, hLater⟩ := count_lt_of_advance hMoment
  refine ⟨?_, ?_⟩
  · exact
      { lastRun := isRecordedMoment_updateMoment (hOffset _) h.lastRun
        nextRun := isRecordedMoment_updateMoment (hOffset _) h.nextRun
        stamps := ⟨created, next, hCreated, rfl, hOrder.trans (Nat.le_of_lt hLater)⟩ }
  · exact
      { createdAt := rfl
        updatedAt := ⟨last, next, hLast, rfl, hLater⟩
        lastRun := isMoment_updateMoment _
        nextRun := isMoment_updateMoment _ }

/-- **Updates.** An updated record is stamped, and comes after the record that was updated. -/
theorem Task.IsStamped.update {updates : Value} (h : task.IsStamped) (hUpdates : updates.IsProper)
    (hUpdate : task.update updates (.universal wall) = .ok record) :
    record.IsStamped ∧ task.Precedes record := by
  obtain ⟨options, hOptions, hZone⟩ := h.options
  obtain ⟨metadata, hMetadata, hOwn⟩ := h.metadata
  obtain ⟨fields, status, slot, updated, rfl, -, hSlot, hUpdated, rfl⟩ :=
    Task.update_eq_ok hOptions hMetadata hUpdate
  have hPart : ((Fields.get? fields "metadata").getD .null).IsProper :=
    hUpdates.2.getD "metadata" trivial
  obtain ⟨hStamped, hPrecedes⟩ := hOwn.update hPart hUpdated
  refine ⟨⟨h.id, ?_, updated, rfl, hStamped⟩, rfl, ?_⟩
  · rcases updateOptions_eq_ok hSlot with rfl | ⟨given, -, rfl⟩
    · exact ⟨options, rfl, hZone⟩
    · have hGiven : (recordZone ((Fields.get? given "timezone").getD .null)
          options.timezone).isTruthy = true := isTruthy_recordZone _ _
      exact ⟨_, rfl, hGiven⟩
  · rw [hMetadata]
    exact hPrecedes

end stamped

end Crontab
