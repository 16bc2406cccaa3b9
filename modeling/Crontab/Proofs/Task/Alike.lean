import Crontab.Proofs.Data.Outcomes
import Crontab.Proofs.Task.Records
import Crontab.Proofs.Value.Agreement

/-!
# Records that tell the same

Two records tell the same if what is read back of them does, options and run counts being compared by
value.  A store that writes its records and one that does not keep such records.

* `Task.Alike` — records that tell the same;
* `Task.Alike.symm`, `Task.Alike.trans` — an equivalence of records;
* `Task.IsRecord.alike_restored` — a record and what is read back of it;
* `Task.alike_update` — they stay alike in updates, which fail for the same reasons.
-/

namespace Crontab

open Time

/-! ## Records that tell the same -/

/-- The metadata tell the same. -/
structure TaskMetadata.Alike (metadata other : TaskMetadata) : Prop where
  runCount : metadata.runCount.Agrees other.runCount
  lastRun : restoredMoment metadata.lastRun = restoredMoment other.lastRun
  nextRun : restoredMoment metadata.nextRun = restoredMoment other.nextRun
  lastError : restoredFailure metadata.lastError = restoredFailure other.lastError
  createdAt : metadata.createdAt = other.createdAt
  updatedAt : metadata.updatedAt = other.updatedAt

/-- The options agree. -/
def TaskOptions.Alike (options other : TaskOptions) : Prop :=
  FieldsAlike options.toFields other.toFields

/-- The records tell the same. -/
structure Task.Alike (task other : Task) : Prop where
  id : task.id = other.id
  name : task.name = other.name
  status : restoredStatus task.status = restoredStatus other.status
  options : ∃ own others, task.options = .filled own ∧ other.options = .filled others ∧
    own.Alike others
  metadata : ∃ own others, task.metadata = .filled own ∧ other.metadata = .filled others ∧
    own.Alike others

section relation

variable {task other last : Task}

/-- Options agree exactly when each of them agrees. -/
theorem TaskOptions.alike_iff {options other : TaskOptions} :
    options.Alike other ↔
      options.expression.Agrees other.expression ∧ options.timezone.Agrees other.timezone ∧
        options.maxRetries.Agrees other.maxRetries ∧ options.retryDelay.Agrees other.retryDelay ∧
        options.timeout.Agrees other.timeout ∧ options.exclusive.Agrees other.exclusive ∧
        options.catchUp.Agrees other.catchUp := by
  simp only [TaskOptions.Alike, FieldsAlike, Fields.Related, TaskOptions.toFields,
    List.forall₂_cons, true_and, List.forall₂_nil_left_iff, and_true]

/-- Recorded metadata tell the same as themselves. -/
theorem TaskMetadata.IsRecorded.alike {metadata : TaskMetadata} (h : metadata.IsRecorded) :
    metadata.Alike metadata :=
  ⟨h.runCount.agrees, rfl, rfl, rfl, rfl, rfl⟩

/-- A record tells the same as itself. -/
theorem Task.IsRecord.alike (h : task.IsRecord) : task.Alike task where
  id := rfl
  name := rfl
  status := rfl
  options := by
    obtain ⟨options, hOptions, hJson⟩ := h.options
    exact ⟨options, options, hOptions, hOptions, Value.fieldsAlike_refl hJson⟩
  metadata := by
    obtain ⟨metadata, hMetadata, hRecorded⟩ := h.metadata
    exact ⟨metadata, metadata, hMetadata, hMetadata, hRecorded.alike⟩

/-- Recorded metadata tell the same as what is left of them. -/
theorem TaskMetadata.IsRecorded.alike_restored {metadata : TaskMetadata} (h : metadata.IsRecorded) :
    metadata.Alike metadata.restored where
  runCount := h.runCount.agrees
  lastRun := (restoredMoment_restoredMoment _).symm
  nextRun := (restoredMoment_restoredMoment _).symm
  lastError := (restoredFailure_restoredFailure _).symm
  createdAt := (restoredMoment_of_isUniversalMoment h.createdAt).symm
  updatedAt := (restoredMoment_of_isUniversalMoment h.updatedAt).symm

/-- A record and what is read back of it tell the same. -/
theorem Task.IsRecord.alike_restored (h : task.IsRecord) : task.Alike task.restored where
  id := rfl
  name := rfl
  status := (restoredStatus_restoredStatus _).symm
  options := by
    obtain ⟨options, hOptions, hJson⟩ := h.options
    exact ⟨options, options, hOptions, hOptions, Value.fieldsAlike_refl hJson⟩
  metadata := by
    obtain ⟨metadata, hMetadata, hRecorded⟩ := h.metadata
    refine ⟨metadata, metadata.restored, hMetadata, ?_, hRecorded.alike_restored⟩
    rw [Task.restored, hMetadata]
    rfl

/-- Telling the same is symmetric on recorded metadata. -/
theorem TaskMetadata.Alike.symm {metadata other : TaskMetadata} (h : metadata.Alike other)
    (hFirst : metadata.IsRecorded) (hSecond : other.IsRecorded) : other.Alike metadata :=
  ⟨h.runCount.symm hFirst.runCount hSecond.runCount, h.lastRun.symm, h.nextRun.symm,
    h.lastError.symm, h.createdAt.symm, h.updatedAt.symm⟩

/-- Agreement is symmetric on options of JSON values. -/
theorem TaskOptions.Alike.symm {options other : TaskOptions} (h : options.Alike other)
    (hFirst : options.AreJson) (hSecond : other.AreJson) : other.Alike options := by
  rw [TaskOptions.alike_iff] at h ⊢
  unfold TaskOptions.AreJson TaskOptions.toFields at hFirst hSecond
  simp only [List.forall_mem_cons] at hFirst hSecond
  obtain ⟨h₁, h₂, h₃, h₄, h₅, h₆, h₇⟩ := h
  obtain ⟨a₁, a₂, a₃, a₄, a₅, a₆, a₇, -⟩ := hFirst
  obtain ⟨b₁, b₂, b₃, b₄, b₅, b₆, b₇, -⟩ := hSecond
  exact ⟨h₁.symm a₁ b₁, h₂.symm a₂ b₂, h₃.symm a₃ b₃, h₄.symm a₄ b₄, h₅.symm a₅ b₅,
    h₆.symm a₆ b₆, h₇.symm a₇ b₇⟩

/-- Records tell the same in either order. -/
theorem Task.Alike.symm (h : task.Alike other) (hFirst : task.IsRecord) (hSecond : other.IsRecord) :
    other.Alike task where
  id := h.id.symm
  name := h.name.symm
  status := h.status.symm
  options := by
    obtain ⟨own, others, hOwn, hOthers, hAlike⟩ := h.options
    obtain ⟨own', hOwn', hJson⟩ := hFirst.options
    obtain rfl := Slot.filled.inj (hOwn.symm.trans hOwn')
    obtain ⟨others', hOthers', hJson'⟩ := hSecond.options
    obtain rfl := Slot.filled.inj (hOthers.symm.trans hOthers')
    exact ⟨others, own, hOthers, hOwn, hAlike.symm hJson hJson'⟩
  metadata := by
    obtain ⟨own, others, hOwn, hOthers, hAlike⟩ := h.metadata
    obtain ⟨own', hOwn', hRecorded⟩ := hFirst.metadata
    obtain rfl := Slot.filled.inj (hOwn.symm.trans hOwn')
    obtain ⟨others', hOthers', hRecorded'⟩ := hSecond.metadata
    obtain rfl := Slot.filled.inj (hOthers.symm.trans hOthers')
    exact ⟨others, own, hOthers, hOwn, hAlike.symm hRecorded hRecorded'⟩

/-- Telling the same is transitive on metadata. -/
theorem TaskMetadata.Alike.trans {metadata other last : TaskMetadata} (h : metadata.Alike other)
    (h' : other.Alike last) : metadata.Alike last :=
  ⟨h.runCount.trans h'.runCount, h.lastRun.trans h'.lastRun, h.nextRun.trans h'.nextRun,
    h.lastError.trans h'.lastError, h.createdAt.trans h'.createdAt, h.updatedAt.trans h'.updatedAt⟩

/-- Agreement is transitive on options. -/
theorem TaskOptions.Alike.trans {options other last : TaskOptions} (h : options.Alike other)
    (h' : other.Alike last) : options.Alike last := by
  rw [TaskOptions.alike_iff] at h h' ⊢
  obtain ⟨h₁, h₂, h₃, h₄, h₅, h₆, h₇⟩ := h
  obtain ⟨h₁', h₂', h₃', h₄', h₅', h₆', h₇'⟩ := h'
  exact ⟨h₁.trans h₁', h₂.trans h₂', h₃.trans h₃', h₄.trans h₄', h₅.trans h₅', h₆.trans h₆',
    h₇.trans h₇'⟩

/-- Telling the same is transitive on records. -/
theorem Task.Alike.trans (h : task.Alike other) (h' : other.Alike last) : task.Alike last where
  id := h.id.trans h'.id
  name := h.name.trans h'.name
  status := h.status.trans h'.status
  options := by
    obtain ⟨own, middle, hOwn, hMiddle, hFirst⟩ := h.options
    obtain ⟨middle', others, hMiddle', hOthers, hSecond⟩ := h'.options
    obtain rfl := Slot.filled.inj (hMiddle.symm.trans hMiddle')
    exact ⟨own, others, hOwn, hOthers, hFirst.trans hSecond⟩
  metadata := by
    obtain ⟨own, middle, hOwn, hMiddle, hFirst⟩ := h.metadata
    obtain ⟨middle', others, hMiddle', hOthers, hSecond⟩ := h'.metadata
    obtain rfl := Slot.filled.inj (hMiddle.symm.trans hMiddle')
    exact ⟨own, others, hOwn, hOthers, hFirst.trans hSecond⟩

end relation

/-! ## Updates side by side -/

section update

variable {wall : Wall} {task other : Task}

/-- Values agree if one given value takes the place of both. -/
theorem agrees_getD {given : Option Value} (hGiven : ∀ value, given = some value → value.IsJson)
    {value other : Value} (h : value.Agrees other) :
    (given.getD value).Agrees (given.getD other) := by
  cases given with
  | none => exact h
  | some own => exact (hGiven own rfl).agrees

/-- Options that agree still do when the same fields are replaced in both. -/
theorem TaskOptions.Alike.replaced {options other : TaskOptions} (h : options.Alike other)
    {fields : Fields Value} (hFields : HasJsonValues fields) :
    (options.replaced fields).Alike (other.replaced fields) := by
  rw [TaskOptions.alike_iff] at h ⊢
  obtain ⟨h₁, h₂, h₃, h₄, h₅, h₆, h₇⟩ := h
  exact ⟨agrees_getD (hFields _) h₁, agrees_getD (hFields _) h₂, agrees_getD (hFields _) h₃,
    agrees_getD (hFields _) h₄, agrees_getD (hFields _) h₅, agrees_getD (hFields _) h₆,
    agrees_getD (hFields _) h₇⟩

/-- Options that agree still do with zones that agree. -/
theorem TaskOptions.Alike.withZone {options other : TaskOptions} (h : options.Alike other)
    {zone zone' : Value} (hZone : zone.Agrees zone') :
    TaskOptions.Alike { options with timezone := zone } { other with timezone := zone' } := by
  rw [TaskOptions.alike_iff] at h ⊢
  exact ⟨h.1, hZone, h.2.2⟩

/-- The relation of two places that hold options which agree. -/
def AlikeOptions (slot other : Slot TaskOptions) : Prop :=
  ∃ own others, slot = .filled own ∧ other = .filled others ∧ own.Alike others

/-- Updating options that agree fails alike, or leads to options that agree. -/
theorem alike_updateOptions {options other : TaskOptions} (h : options.Alike other) {given : Value}
    (hGiven : ∀ fields, given = .mapping fields → HasJsonValues fields) :
    SameOutcome AlikeOptions (updateOptions (.filled options) given)
      (updateOptions (.filled other) given) := by
  unfold updateOptions
  split
  · exact .ok ⟨options, other, rfl, rfl, h⟩
  · refine SameOutcome.bind (R := fun fields fields' => fields = fields' ∧ HasJsonValues fields)
      (SameOutcome.refl fun fields hFields => ⟨rfl, hGiven fields (updateFields_eq_ok hFields)⟩) ?_
    rintro fields _ ⟨rfl, hJson⟩
    have hZone : (recordZone ((fields.get? "timezone").getD .null) options.timezone).Agrees
        (recordZone ((fields.get? "timezone").getD .null) other.timezone) :=
      (isJson_givenZone hJson).agrees.orElse
        ((TaskOptions.alike_iff.1 h).2.1.orElse (Value.IsJson.text _).agrees)
    exact .ok ⟨_, _, rfl, rfl, (h.replaced hJson).withZone hZone⟩

/-- Updating moments of which the same is left leads to moments of which the same is left. -/
theorem restoredMoment_updateMoment {value other : Value}
    (h : restoredMoment value = restoredMoment other) (given : Option Value) :
    restoredMoment (updateMoment given value) = restoredMoment (updateMoment given other) := by
  cases given with
  | none => exact h
  | some own =>
    rw [updateMoment, updateMoment, Value.orElse, Value.orElse]
    split
    · rfl
    · exact h

/-- Updating metadata that tell the same fails alike, or leads to metadata that tell the same. -/
theorem alike_updateMetadata {metadata other : TaskMetadata} (h : metadata.Alike other)
    {given : Value} (hGiven : ∀ fields, given = .mapping fields → PlainMetadata (Fields.get? fields))
    (now : Moment) :
    SameOutcome TaskMetadata.Alike (updateMetadata (.filled metadata) given now)
      (updateMetadata (.filled other) given now) := by
  rw [updateMetadata_of_metadataOrNone rfl, updateMetadata_of_metadataOrNone rfl]
  refine SameOutcome.bind
    (R := fun fields fields' => fields = fields' ∧ PlainMetadata (Fields.get? fields))
    (SameOutcome.refl fun fields hFields => ?_) ?_
  · refine ⟨rfl, ?_⟩
    split at hFields
    · obtain rfl := Except.ok.inj hFields
      exact plainMetadata_nil
    · exact hGiven fields (updateFields_eq_ok hFields)
  · rintro fields _ ⟨rfl, hPlain⟩
    unfold TaskMetadata.updated
    rw [h.updatedAt]
    refine SameOutcome.bind (SameOutcome.refl fun _ _ => rfl) ?_
    rintro moment _ rfl
    exact .ok
      { runCount := agrees_getD hPlain.runCount h.runCount
        lastRun := restoredMoment_updateMoment h.lastRun _
        nextRun := restoredMoment_updateMoment h.nextRun _
        lastError := by
          simp only
          cases fields.get? "last_error" with
          | none => exact h.lastError
          | some error => rfl
        createdAt := h.createdAt
        updatedAt := rfl }

/-- Updating statuses of which the same is left fails alike, or leads to statuses of which the same
is left. -/
theorem alike_updateStatus {stored other : Value}
    (h : restoredStatus stored = restoredStatus other) (given : Option Value) :
    SameOutcome (fun status status' => restoredStatus status = restoredStatus status')
      (updateStatus given stored) (updateStatus given other) := by
  cases given with
  | none => exact .ok h
  | some value => exact SameOutcome.refl fun _ _ => rfl

/-- **Updates side by side.** The same update of records that tell the same fails for the same reason,
or leads to records that tell the same. -/
theorem Task.alike_update (h : task.Alike other) {updates : Value} (hPlain : updates.IsPlainUpdate)
    (now : Moment) : SameOutcome Task.Alike (task.update updates now) (other.update updates now) := by
  obtain ⟨options, options', hOptions, hOptions', hOptionsAlike⟩ := h.options
  obtain ⟨metadata, metadata', hMetadata, hMetadata', hMetadataAlike⟩ := h.metadata
  unfold Task.update
  rw [hOptions, hOptions', hMetadata, hMetadata']
  refine SameOutcome.bind (R := fun fields fields' => fields = fields' ∧ PlainUpdate fields)
    (SameOutcome.refl fun fields hFields => ⟨rfl, hPlain fields (updateFields_eq_ok hFields)⟩) ?_
  rintro fields _ ⟨rfl, hGiven⟩
  refine SameOutcome.bind (alike_updateStatus h.status _) fun status status' hStatus => ?_
  refine SameOutcome.bind (alike_updateOptions hOptionsAlike fun part hPart =>
    hGiven.options part (get?_of_getD_eq_mapping hPart)) fun slot slot' hSlot => ?_
  refine SameOutcome.bind (alike_updateMetadata hMetadataAlike (fun part hPart =>
    hGiven.metadata part (get?_of_getD_eq_mapping hPart)) now) fun updated updated' hUpdated => ?_
  exact .ok
    { id := h.id
      name := by
        simp only
        rw [h.name]
      status := hStatus
      options := hSlot
      metadata := ⟨updated, updated', rfl, rfl, hUpdated⟩ }

end update

end Crontab
