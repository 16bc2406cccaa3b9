import Crontab.Proofs.Task.Faults
import Crontab.Proofs.Time.FirstPass

/-!
# Updates that are merged

An update without fault is merged into the record, and the record is stamped.  The stamp is the present
moment, or the microsecond after the last update if that is later.

* `Task.merged` — a record with what an update names;
* `Task.update_cases` — an update is refused for its first fault, or merged and stamped;
* `Value.EndsCalendar`, `advance_eq_error_iff` — the only obstacle to a stamp;
* `IsNextStamp`, `isNextStamp_of_advance` — the moment of an update.
-/

namespace Crontab

open Time

/-! ## Merged records -/

/-- The status that an update names, if it is a state, and the stored one otherwise. -/
def mergedStatus (given : Option Value) (stored : Value) : Value :=
  match given.bind fun value => value.text?.bind Status.ofName? with
  | some status => .status status
  | none => stored

/-- The options with what an update names.  If it gives any options, a missing zone is made up for. -/
def TaskOptions.merged (options : TaskOptions) (updates : Value) : TaskOptions :=
  { options.replaced (UpdatePart.options.fieldsOf updates) with
    timezone :=
      if (UpdatePart.options.given? updates).isSome then
        recordZone ((UpdatePart.options.named? updates "timezone").getD .null) options.timezone
      else options.timezone }

/-- The metadata with what an update names, stamped with the moment of the update. -/
def TaskMetadata.merged (metadata : TaskMetadata) (updates : Value) (stamp : Moment) :
    TaskMetadata :=
  { runCount := (UpdatePart.metadata.named? updates "run_count").getD metadata.runCount
    lastRun := updateMoment (UpdatePart.metadata.named? updates "last_run") metadata.lastRun
    nextRun := updateMoment (UpdatePart.metadata.named? updates "next_run") metadata.nextRun
    lastError := (UpdatePart.metadata.named? updates "last_error").getD metadata.lastError
    createdAt := metadata.createdAt
    updatedAt := .moment stamp }

/-- A record of given options and metadata with what an update names, stamped with the moment of the
update. -/
def Task.merged (task : Task) (options : TaskOptions) (metadata : TaskMetadata) (updates : Value)
    (stamp : Moment) : Task :=
  { id := task.id
    name := (UpdatePart.task.named? updates "name").getD task.name
    status := mergedStatus (UpdatePart.task.named? updates "status") task.status
    execute := (UpdatePart.task.named? updates "execute").getD task.execute
    options := .filled (options.merged updates)
    metadata := .filled (metadata.merged updates stamp) }

section merged

variable {task : Task} {options : TaskOptions} {metadata : TaskMetadata} {updates : Value}
variable {now : Moment}

/-- An updated status is the merged one. -/
theorem eq_mergedStatus_of_updateStatus {given : Option Value} {stored status : Value}
    (h : updateStatus given stored = .ok status) : status = mergedStatus given stored := by
  cases given with
  | none => exact (Except.ok.inj h).symm
  | some value =>
    rw [updateStatus] at h
    rw [mergedStatus, Option.bind_some]
    cases hState : value.text?.bind Status.ofName? with
    | none =>
      rw [hState] at h
      cases h
    | some state =>
      rw [hState] at h
      exact (Except.ok.inj h).symm

/-- What is given under a name, of which `null` is nothing. -/
theorem filter_not_isNull (given : Option Value) :
    given.filter (!·.isNull) =
      if (given.getD .null).isNull then none else some (given.getD .null) := by
  cases given with
  | none => rfl
  | some value =>
    rw [Option.getD_some, Option.filter_some]
    cases value.isNull <;> rfl

/-- For the options an update gives what stands under their name, unless it is `null`. -/
theorem given?_options_mapping (fields : Fields Value) :
    UpdatePart.options.given? (.mapping fields) =
      if ((Fields.get? fields "options").getD .null).isNull then none
      else some ((Fields.get? fields "options").getD .null) :=
  filter_not_isNull _

/-- For the metadata an update gives what stands under their name, unless it is `null`. -/
theorem given?_metadata_mapping (fields : Fields Value) :
    UpdatePart.metadata.given? (.mapping fields) =
      if ((Fields.get? fields "metadata").getD .null).isNull then none
      else some ((Fields.get? fields "metadata").getD .null) :=
  filter_not_isNull _

/-- An update that gives no options leaves them as they are. -/
theorem TaskOptions.merged_of_given?_eq_none (h : UpdatePart.options.given? updates = none) :
    options.merged updates = options := by
  unfold TaskOptions.merged UpdatePart.fieldsOf
  rw [h]
  rfl

/-- The options that are checked are merged. -/
theorem updateOptions_eq_checked (fields : Fields Value) :
    updateOptions (.filled options) ((Fields.get? fields "options").getD .null) =
      UpdatePart.options.checked (.mapping fields) >>= fun _ =>
        .ok (.filled (options.merged (.mapping fields))) := by
  have hGiven := given?_options_mapping fields
  unfold updateOptions UpdatePart.checked
  cases hNull : ((Fields.get? fields "options").getD .null).isNull with
  | true =>
    rw [hNull, if_pos rfl] at hGiven
    rw [if_pos rfl, hGiven, TaskOptions.merged_of_given?_eq_none hGiven]
    rfl
  | false =>
    rw [hNull, if_neg Bool.false_ne_true] at hGiven
    rw [if_neg Bool.false_ne_true, hGiven]
    rcases updateFields_cases .options ((Fields.get? fields "options").getD .null) with
      ⟨fault, -, hError⟩ | ⟨own, hOwn, -, hOk⟩
    · simp only [hError]
      rfl
    · have hMerged : options.merged (.mapping fields) =
          { options.replaced own with
            timezone := recordZone ((Fields.get? own "timezone").getD .null) options.timezone } := by
        unfold TaskOptions.merged UpdatePart.named? UpdatePart.fieldsOf
        rw [hGiven, hOwn]
        rfl
      simp only [hOk, hMerged]
      rfl

/-- The metadata that are checked are updated. -/
theorem updateMetadata_eq_checked {slot : Slot TaskMetadata}
    (h : slot.metadataOrNone = .filled metadata) (fields : Fields Value) :
    updateMetadata slot ((Fields.get? fields "metadata").getD .null) now =
      UpdatePart.metadata.checked (.mapping fields) >>= fun own => metadata.updated own now := by
  rw [updateMetadata_of_metadataOrNone h, UpdatePart.checked, given?_metadata_mapping]
  cases ((Fields.get? fields "metadata").getD .null).isNull with
  | true => rfl
  | false => rfl

/-- **Refused or merged.** An update is refused for its first fault, or it has none and is merged and
stamped. -/
theorem Task.update_cases (hOptions : task.options = .filled options)
    (hMetadata : task.metadata.metadataOrNone = .filled metadata) (updates : Value) (now : Moment) :
    (∃ fault, IsFirstFault updates fault ∧ task.update updates now = .error fault) ∨
      ((∀ fault, ¬HasFault updates fault) ∧
        task.update updates now =
          (advance now metadata.updatedAt).map (task.merged options metadata updates)) := by
  -- One check after the other: it refuses the update, or all faults are in later places.
  have hAll : FaultsFrom updates 0 := fun fault _ => Nat.zero_le fault.stage
  rcases UpdatePart.task.checked_cases updates with
    ⟨fault, hFault, hStage, hError⟩ | ⟨hTask, -, hMapping, hChecked⟩
  · refine .inl ⟨fault, FaultsFrom.isFirstFault (hStage ▸ hAll) hFault, ?_⟩
    have hRefused : updateFields .task updates = .error fault := hError
    rw [Task.update, hRefused]
    rfl
  have hAfterTask := hAll.next hTask
  obtain ⟨fields, rfl⟩ : ∃ fields, updates = .mapping fields := ⟨_, hMapping updates rfl⟩
  have hFields : updateFields .task (.mapping fields) = .ok fields := hChecked
  have hNamed : UpdatePart.task.named? (.mapping fields) "status" = Fields.get? fields "status" :=
    rfl
  rw [Task.update, hFields, ok_bind, hOptions, updateOptions_eq_checked,
    updateMetadata_eq_checked hMetadata, ← hNamed]
  rcases updateStatus_cases (.mapping fields) task.status with
    ⟨fault, hFault, hStage, hError⟩ | ⟨hStatus, status, hOk⟩
  · refine .inl ⟨fault, FaultsFrom.isFirstFault (hStage ▸ hAfterTask) hFault, ?_⟩
    rw [hError]
    rfl
  have hAfterStatus := hAfterTask.next hStatus
  rcases UpdatePart.options.checked_cases (.mapping fields) with
    ⟨fault, hFault, hStage, hError⟩ | ⟨hNoOptions, -, -, hOptionsOk⟩
  · refine .inl ⟨fault, FaultsFrom.isFirstFault (hStage ▸ hAfterStatus) hFault, ?_⟩
    rw [hOk, hError]
    rfl
  have hAfterOptions := hAfterStatus.next hNoOptions
  rcases UpdatePart.metadata.checked_cases (.mapping fields) with
    ⟨fault, hFault, hStage, hError⟩ | ⟨hNoMetadata, -, -, hMetadataOk⟩
  · refine .inl ⟨fault, FaultsFrom.isFirstFault (hStage ▸ hAfterOptions) hFault, ?_⟩
    rw [hOk, hOptionsOk, hError]
    rfl
  have hAfterMetadata := hAfterOptions.next hNoMetadata
  refine .inr ⟨hAfterMetadata.not_hasFault, ?_⟩
  rw [hOk, hOptionsOk, hMetadataOk, eq_mergedStatus_of_updateStatus hOk]
  simp only [ok_bind, TaskMetadata.updated]
  cases advance now metadata.updatedAt <;> rfl

/-- An update without fault is merged and stamped. -/
theorem Task.update_eq_merged (hOptions : task.options = .filled options)
    (hMetadata : task.metadata.metadataOrNone = .filled metadata)
    (h : ∀ fault, ¬HasFault updates fault) (now : Moment) :
    task.update updates now =
      (advance now metadata.updatedAt).map (task.merged options metadata updates) := by
  rcases Task.update_cases hOptions hMetadata updates now with ⟨fault, hFault, -⟩ | ⟨-, hMerged⟩
  · exact absurd hFault.1 (h fault)
  · exact hMerged

/-- A record that an update makes is merged and stamped. -/
theorem Task.eq_merged_of_update {record : Task} (hOptions : task.options = .filled options)
    (hMetadata : task.metadata.metadataOrNone = .filled metadata)
    (h : task.update updates now = .ok record) :
    (∀ fault, ¬HasFault updates fault) ∧ ∃ stamp, advance now metadata.updatedAt = .ok stamp ∧
      record = task.merged options metadata updates stamp := by
  rcases Task.update_cases hOptions hMetadata updates now with ⟨fault, -, hError⟩ | ⟨hNone, hMerged⟩
  · rw [hError] at h
    cases h
  · rw [hMerged, map_eq_ok] at h
    obtain ⟨stamp, hStamp, hRecord⟩ := h
    exact ⟨hNone, stamp, hStamp, hRecord.symm⟩

end merged

/-! ## Stamps -/

/-- The last reading of the calendar. -/
def Time.Wall.last : Wall := ⟨dayCount * day - 1, by decide⟩

/-- The clock of a moment has the same offset a microsecond later, in the first pass over that
reading. -/
def Time.Moment.KeepsOffset (moment : Moment) : Prop :=
  ∀ next, moment.later? 1 = .ok next → next.offset? = moment.offset?

/-- There was no last update, or its moment is not naive. -/
def Value.IsPreviousStamp (previous : Value) : Prop :=
  previous = .null ∨ ∃ last, previous = .moment last ∧ last.isNaive = false

/-- The clock of the last update shows the last reading of the calendar, and its moment is not past. -/
def Value.EndsCalendar (previous : Value) (now : Wall) : Prop :=
  ∃ last instant, previous = .moment last ∧ last.instant? = some instant ∧
    (now.count : Int) ≤ instant ∧ last.wall = .last

/-- The moment of an update: now, or a microsecond after the last update if that is later.  Nothing is
said of a clock that does not keep its offset. -/
structure IsNextStamp (previous : Value) (now : Wall) (stamp : Moment) : Prop where
  first : previous = .null → stamp = .universal now
  later : ∀ last instant, previous = .moment last → last.instant? = some instant →
    (instant < now.count ∨ last.KeepsOffset) →
    stamp.instant? = some (max (now.count : Int) (instant + 1))

section stamps

variable {previous : Value} {now : Wall} {last stamp : Moment}

/-- Only the last reading of the calendar has none after it. -/
theorem Time.Wall.shift?_one_eq_none_iff {wall : Wall} : wall.shift? 1 = none ↔ wall = .last := by
  have hLt := wall.count_lt
  constructor
  · intro h
    refine Wall.eq_of_count_eq ?_
    by_contra hNot
    have hNext : wall.count + 1 < dayCount * day := by
      change ¬wall.count = dayCount * day - 1 at hNot
      omega
    have hSome : wall.shift? 1 = some ⟨wall.count + 1, hNext⟩ := Wall.shift?_eq_some_iff.2 (by simp)
    rw [h] at hSome
    cases hSome
  · rintro rfl
    decide

/-- A moment with the clock of a fixed offset keeps it. -/
theorem Time.Moment.keepsOffset_of_fixed {offset : Int} {name : Option String}
    (h : last.clock = .fixed offset name) : last.KeepsOffset := by
  intro next hNext
  rw [Moment.later?] at hNext
  split at hNext
  · obtain rfl := Except.ok.inj hNext
    simp only [Moment.offset?, h]
  · cases hNext

/-- A moment that is not naive has an instant. -/
theorem exists_instant?_of_not_naive (h : last.isNaive = false) :
    ∃ instant, last.instant? = some instant := by
  unfold Moment.isNaive at h
  unfold Moment.instant? Moment.offset?
  cases hClock : last.clock with
  | naive => simp [hClock] at h
  | fixed offset name => exact ⟨_, rfl⟩
  | zoned zone => exact ⟨_, rfl⟩

/-- The moment a microsecond later, unless there is none in the calendar. -/
theorem Time.Moment.later?_one_cases (last : Moment) :
    (last.wall = .last ∧ last.later? 1 = .error ⟨⟩) ∨
      ∃ next, last.later? 1 = .ok next ∧ last.wall ≠ .last ∧
        (next.wall.count : Int) = last.wall.count + 1 := by
  unfold Moment.later?
  cases hShift : last.wall.shift? 1 with
  | none => exact .inl ⟨Wall.shift?_one_eq_none_iff.1 hShift, rfl⟩
  | some wall =>
    refine .inr ⟨_, rfl, fun hLast => ?_, Wall.shift?_eq_some_iff.1 hShift⟩
    rw [Wall.shift?_one_eq_none_iff.2 hLast] at hShift
    cases hShift

/-- The only obstacle to a stamp is the end of the calendar. -/
theorem advance_eq_error_iff (h : previous.IsPreviousStamp) {fault : LifecycleError} :
    advance (.universal now) previous = .error fault ↔
      fault = .outOfCalendar ∧ previous.EndsCalendar now := by
  rcases h with rfl | ⟨last, rfl, hAware⟩
  · constructor
    · rintro ⟨⟩
    · rintro ⟨-, _, _, ⟨⟩, _⟩
  obtain ⟨instant, hInstant⟩ := exists_instant?_of_not_naive hAware
  have hEnds : (Value.moment last).EndsCalendar now ↔
      (now.count : Int) ≤ instant ∧ last.wall = .last := by
    constructor
    · rintro ⟨_, _, ⟨⟩, hSame, hLe, hLast⟩
      rw [Option.some.inj (hInstant.symm.trans hSame)]
      exact ⟨hLe, hLast⟩
    · rintro ⟨hLe, hLast⟩
      exact ⟨last, instant, rfl, hInstant, hLe, hLast⟩
  rw [hEnds, advance_moment hInstant]
  by_cases hLe : (now.count : Int) ≤ instant
  · rw [if_pos hLe]
    rcases last.later?_one_cases with ⟨hLast, hNone⟩ | ⟨next, hNext, hNotLast, -⟩
    · rw [hNone]
      constructor
      · rintro ⟨⟩
        exact ⟨rfl, hLe, hLast⟩
      · rintro ⟨rfl, -⟩
        rfl
    · rw [hNext]
      constructor
      · rintro ⟨⟩
      · rintro ⟨-, -, hLast⟩
        exact absurd hLast hNotLast
  · rw [if_neg hLe]
    constructor
    · rintro ⟨⟩
    · rintro ⟨-, hNow, -⟩
      exact absurd hNow hLe

/-- What the stamp is advanced to is the moment of the update. -/
theorem isNextStamp_of_advance (h : advance (.universal now) previous = .ok stamp) :
    IsNextStamp previous now stamp where
  first := by
    rintro rfl
    exact (Except.ok.inj h).symm
  later := by
    rintro last instant rfl hInstant hKeeps
    rw [advance_moment hInstant] at h
    by_cases hLe : (now.count : Int) ≤ instant
    · rw [if_pos hLe] at h
      rcases last.later?_one_cases with ⟨-, hNone⟩ | ⟨next, hNext, -, hCount⟩
      · rw [hNone] at h
        cases h
      · rw [hNext] at h
        obtain rfl := Except.ok.inj h
        -- a microsecond on the clock is a microsecond in time only if the clock keeps its offset
        have hOffset := (hKeeps.resolve_left (by omega)) next hNext
        rw [Moment.instant?] at hInstant ⊢
        rw [hOffset]
        obtain ⟨offset, hOffset, rfl⟩ := Option.map_eq_some_iff.1 hInstant
        rw [hOffset, Option.map_some, hCount]
        congr 1
        omega
    · rw [if_neg hLe] at h
      obtain rfl := Except.ok.inj h
      rw [instant?_universal]
      congr 1
      omega

end stamps

end Crontab
