import Crontab.Proofs.Task.Merging
import Crontab.Time.Atlas

/-!
# What an update changes

Every field that an update names has the given value afterwards, and every other field its own.  The
exceptions are few: an identifier and the stamps cannot be given, a zone is never missing, a run is only
replaced by a moment, and the moment of the last update moves on.  Two updates that name different
fields can be made in either order.

* `Task.field?`, `field?_merged` — records field by field;
* `Task.Merges` — a record next to the record that an update makes of it;
* `Task.UpdatesCommute`, `Task.merged_comm` — two updates in either order;
* `Task.update_merges` — updates merge exactly what they name;
* `Task.update_lastReading_secondPass` — the stamps that are not the next ones.
-/

namespace Crontab

open Time

/-! ## Fields -/

/-- The fields of a record in a part.  Without metadata they are those of a task that has not run. -/
def Task.fieldsAt (task : Task) : UpdatePart → Fields Value
  | .task =>
    [("id", task.id), ("name", task.name), ("status", task.status), ("execute", task.execute)]
  | .options =>
    match task.options with
    | .filled options => options.toFields
    | .other _ => []
  | .metadata =>
    match task.metadata.metadataOrNone with
    | .filled metadata => metadata.toFields
    | .other _ => []

/-- The value of a field of a record. -/
def Task.field? (task : Task) (part : UpdatePart) (name : String) : Option Value :=
  (task.fieldsAt part).get? name

/-- What a merged record has in a field, from what it had there. -/
def mergedValue (updates : Value) (stamp : Moment) (part : UpdatePart) (name : String)
    (stored : Value) : Value :=
  let given := part.named? updates name
  match part, name with
  | .task, "id" | .metadata, "created_at" => stored
  | .task, "status" => mergedStatus given stored
  | .options, "timezone" =>
    if (UpdatePart.options.given? updates).isSome then recordZone (given.getD .null) stored
    else stored
  | .metadata, "last_run" | .metadata, "next_run" => updateMoment given stored
  | .metadata, "updated_at" => .moment stamp
  | _, _ => given.getD stored

/-- The fields that do not just take the value that is named for them. -/
def specialFields : List (UpdatePart × String) :=
  [(.task, "id"), (.task, "status"), (.task, "options"), (.task, "metadata"),
   (.options, "timezone"), (.metadata, "last_run"), (.metadata, "next_run"),
   (.metadata, "created_at"), (.metadata, "updated_at")]

section fields

variable {task : Task} {options : TaskOptions} {metadata : TaskMetadata} {updates : Value}
variable {stamp : Moment} {part : UpdatePart} {name : String}

/-- The fields of a part of a merged record are the merged values of the fields. -/
theorem fieldsAt_merged (hOptions : task.options = .filled options)
    (hMetadata : task.metadata.metadataOrNone = .filled metadata) (part : UpdatePart) :
    (task.merged options metadata updates stamp).fieldsAt part =
      (task.fieldsAt part).map fun field =>
        (field.1, mergedValue updates stamp part field.1 field.2) := by
  cases part with
  | task => rfl
  | options =>
    simp only [Task.fieldsAt, hOptions]
    rfl
  | metadata =>
    simp only [Task.fieldsAt, hMetadata]
    rfl

/-- A field of a merged record has the merged value of the field. -/
theorem field?_merged (hOptions : task.options = .filled options)
    (hMetadata : task.metadata.metadataOrNone = .filled metadata) (part : UpdatePart)
    (name : String) :
    (task.merged options metadata updates stamp).field? part name =
      (task.field? part name).map (mergedValue updates stamp part name) := by
  rw [Task.field?, fieldsAt_merged hOptions hMetadata]
  exact Fields.get?_map (task.fieldsAt part) (mergedValue updates stamp part) name

/-- A field that is not special takes the value that is named for it. -/
theorem mergedValue_of_not_special (h : (part, name) ∉ specialFields) (stored : Value) :
    mergedValue updates stamp part name stored = (part.named? updates name).getD stored := by
  unfold mergedValue
  split
  case h_8 => rfl
  all_goals exact absurd (by decide) h

/-- What is not named stays, but for a zone that is missing and the stamp. -/
theorem mergedValue_of_named?_eq_none (h : part.named? updates name = none)
    (hZone : (part, name) ≠ (.options, "timezone"))
    (hStamp : (part, name) ≠ (.metadata, "updated_at")) (stored : Value) :
    mergedValue updates stamp part name stored = stored := by
  unfold mergedValue
  rw [h]
  split
  case h_4 => exact absurd rfl hZone
  case h_7 => exact absurd rfl hStamp
  all_goals rfl

/-- Fields of different parts are different. -/
theorem ne_of_part_ne {other : UpdatePart} (h : part ≠ other) (name name' : String) :
    (part, name) ≠ (other, name') :=
  fun hEq => h (congrArg Prod.fst hEq)

/-- A record has a value in every field that an update can name, the parts themselves apart. -/
theorem exists_field? (hOptions : task.options = .filled options)
    (hMetadata : task.metadata.metadataOrNone = .filled metadata) (hName : name ∈ part.names)
    (hNotOptions : (part, name) ≠ (.task, "options"))
    (hNotMetadata : (part, name) ≠ (.task, "metadata")) :
    ∃ stored, task.field? part name = some stored := by
  refine Fields.exists_get?_of_mem_names ?_
  cases part with
  | task =>
    change name ∈ ["id", "name", "status", "execute"] ++ ["options", "metadata"] at hName
    refine (List.mem_append.1 hName).resolve_right fun hPart => ?_
    simp only [List.mem_cons, List.not_mem_nil, or_false] at hPart
    rcases hPart with rfl | rfl
    · exact hNotOptions rfl
    · exact hNotMetadata rfl
  | options =>
    rw [Task.fieldsAt, hOptions]
    exact hName
  | metadata =>
    rw [Task.fieldsAt, hMetadata]
    exact hName

/-- A run takes the moment that is named for it. -/
theorem mergedValue_of_run (h : name ∈ ["last_run", "next_run"]) (stored : Value) :
    mergedValue updates stamp .metadata name stored =
      updateMoment (UpdatePart.metadata.named? updates name) stored := by
  simp only [List.mem_cons, List.not_mem_nil, or_false] at h
  rcases h with rfl | rfl <;> rfl

/-- A moment is not replaced by a value that is none. -/
theorem updateMoment_of_isMoment_eq_false {value : Value} (h : value.isMoment = false)
    (stored : Value) : updateMoment (some value) stored = stored := by
  cases value with
  | moment m => cases h
  | _ => rfl

/-- The names in an update without faults are known. -/
theorem known_of_not_hasFault (h : ∀ fault, ¬HasFault updates fault) {value : Value}
    (hNamed : part.named? updates name = some value) : name ∈ part.names := by
  rcases part.checked_cases updates with ⟨fault, hFault, -, -⟩ | ⟨-, hKnown, -, -⟩
  · exact absurd hFault (h fault)
  · exact hKnown name (List.mem_map.2 ⟨_, Fields.mem_of_get? hNamed, rfl⟩)

/-- What an update without fault makes of a field that it names, the parts themselves apart. -/
theorem exists_field?_merged (hOptions : task.options = .filled options)
    (hMetadata : task.metadata.metadataOrNone = .filled metadata)
    (hNone : ∀ fault, ¬HasFault updates fault) {value : Value}
    (hNamed : part.named? updates name = some value)
    (hNotOptions : (part, name) ≠ (.task, "options"))
    (hNotMetadata : (part, name) ≠ (.task, "metadata")) :
    ∃ stored, task.field? part name = some stored ∧
      (task.merged options metadata updates stamp).field? part name =
        some (mergedValue updates stamp part name stored) := by
  obtain ⟨stored, hStored⟩ := exists_field? hOptions hMetadata
    (known_of_not_hasFault hNone hNamed) hNotOptions hNotMetadata
  refine ⟨stored, hStored, ?_⟩
  rw [field?_merged hOptions hMetadata, hStored, Option.map_some]

end fields

/-! ## Updates -/

/-- The record is what an update at a moment makes of a task: every named field has the given value,
and every other field that of the task, but for the special ones. -/
structure Task.Merges (task : Task) (updates : Value) (now : Wall) (record : Task) : Prop where
  filled : (∃ options, record.options = .filled options) ∧
    ∃ metadata, record.metadata = .filled metadata
  named : ∀ part name value, UpdatePart.named? part updates name = some value →
    (part, name) ∉ specialFields → record.field? part name = some value
  unnamed : ∀ part name, UpdatePart.named? part updates name = none →
    (part, name) ≠ (.options, "timezone") → (part, name) ≠ (.metadata, "updated_at") →
    record.field? part name = task.field? part name
  /-- What is named for these fields is ignored. -/
  ignored : record.id = task.id ∧
    record.field? .metadata "created_at" = task.field? .metadata "created_at"
  status : ∀ value, UpdatePart.task.named? updates "status" = some value →
    ∃ status : Status, (value = .status status ∨ value = .text status.name) ∧
      record.status = .status status
  /-- `null` for the options is no update of them. -/
  noOptions : UpdatePart.options.given? updates = none → record.options = task.options
  zone : ∀ fields, UpdatePart.options.given? updates = some (.mapping fields) →
    ∃ stored, task.field? .options "timezone" = some stored ∧
      record.field? .options "timezone" =
        some (((Fields.get? fields "timezone").getD .null).orElse (stored.orElse (.text "UTC")))
  /-- A run is replaced by a moment, which is read in universal time if it is naive. -/
  run : ∀ name ∈ ["last_run", "next_run"], ∀ moment,
    UpdatePart.metadata.named? updates name = some (.moment moment) →
    record.field? .metadata name = some (.moment (moment.orOnClock .universal))
  noRun : ∀ name ∈ ["last_run", "next_run"], ∀ value,
    UpdatePart.metadata.named? updates name = some value → value.isMoment = false →
    record.field? .metadata name = task.field? .metadata name
  stamp : ∃ previous stamp, task.field? .metadata "updated_at" = some previous ∧
    record.field? .metadata "updated_at" = some (.moment stamp) ∧ IsNextStamp previous now stamp

/-- No field is named by both updates. -/
def DisjointUpdates (updates others : Value) : Prop :=
  ∀ part name, (part, name) ≠ (.task, "options") → (part, name) ≠ (.task, "metadata") →
    UpdatePart.named? part updates name = none ∨ UpdatePart.named? part others name = none

/-- The record without the moment of its last update. -/
def Task.unstamped (task : Task) : Task :=
  match task.metadata with
  | .filled metadata => { task with metadata := .filled { metadata with updatedAt := .null } }
  | .other _ => task

/-- The order of two updates of a record does not matter. -/
structure Task.UpdatesCommute (task : Task) (updates others : Value) : Prop where
  /-- The records that are made are the same but for their stamps, whatever the clocks show. -/
  records : ∀ (first second first' second' : Wall) (record record' : Task),
    (task.update updates (.universal first) >>= (·.update others (.universal second))) =
      .ok record →
    (task.update others (.universal first') >>= (·.update updates (.universal second'))) =
      .ok record' →
    record.unstamped = record'.unstamped
  /-- If both updates are without fault, the outcome at the same moments is the same. -/
  outcome : (∀ fault, ¬HasFault updates fault) → (∀ fault, ¬HasFault others fault) →
    ∀ first second : Wall,
      (task.update updates (.universal first) >>= (·.update others (.universal second))) =
        (task.update others (.universal first) >>= (·.update updates (.universal second)))

section updates

variable {task : Task} {options : TaskOptions} {metadata : TaskMetadata} {updates others : Value}
variable {now : Wall}

/-- What an update makes of a record is merged field by field. -/
theorem Task.merges_of_update {record : Task} (hOptions : task.options = .filled options)
    (hMetadata : task.metadata.metadataOrNone = .filled metadata)
    (h : task.update updates (.universal now) = .ok record) : task.Merges updates now record := by
  obtain ⟨hNone, stamp, hStamp, rfl⟩ := Task.eq_merged_of_update hOptions hMetadata h
  -- the merger is one function of the part and the name, so that each clause reads it at its own
  -- fields
  have hField (part : UpdatePart) (name : String) :
      (task.merged options metadata updates stamp).field? part name =
        (task.field? part name).map (mergedValue updates stamp part name) :=
    field?_merged hOptions hMetadata part name
  exact
    { filled := ⟨⟨_, rfl⟩, _, rfl⟩
      named := by
        intro part name value hNamed hPlain
        obtain ⟨stored, -, hMerged⟩ := exists_field?_merged hOptions hMetadata hNone hNamed
          (fun h => hPlain (h ▸ by decide)) (fun h => hPlain (h ▸ by decide))
        rw [hMerged, mergedValue_of_not_special hPlain, hNamed, Option.getD_some]
      unnamed := by
        intro part name hUnnamed hZone hUpdated
        rw [hField]
        cases task.field? part name with
        | none => rfl
        | some stored =>
          rw [Option.map_some, mergedValue_of_named?_eq_none hUnnamed hZone hUpdated]
      ignored := by
        refine ⟨rfl, ?_⟩
        rw [hField]
        exact Option.map_id'
      status := by
        intro value hNamed
        cases hState : value.text?.bind Status.ofName? with
        | none =>
          refine absurd (HasFault.status hNamed fun status => ?_) (hNone _)
          rw [← not_or, ← bind_ofName?_eq_some_iff, hState]
          exact nofun
        | some status =>
          refine ⟨status, bind_ofName?_eq_some_iff.1 hState, ?_⟩
          simp only [Task.merged, hNamed, mergedStatus, Option.bind_some, hState]
      noOptions := by
        intro hGiven
        rw [hOptions, Task.merged, TaskOptions.merged_of_given?_eq_none hGiven]
      zone := by
        intro fields hGiven
        have hStored : task.field? .options "timezone" = some options.timezone := by
          rw [Task.field?, Task.fieldsAt, hOptions]
          rfl
        refine ⟨options.timezone, hStored, ?_⟩
        rw [hField, hStored, Option.map_some, mergedValue, UpdatePart.named?, UpdatePart.fieldsOf,
          hGiven]
        rfl
      run := by
        intro name hName moment hNamed
        obtain ⟨stored, -, hMerged⟩ := exists_field?_merged hOptions hMetadata hNone hNamed
          (ne_of_part_ne (by decide) _ _) (ne_of_part_ne (by decide) _ _)
        rw [hMerged, mergedValue_of_run hName, hNamed]
        rfl
      noRun := by
        intro name hName value hNamed hNot
        obtain ⟨stored, hStored, hMerged⟩ := exists_field?_merged hOptions hMetadata hNone hNamed
          (ne_of_part_ne (by decide) _ _) (ne_of_part_ne (by decide) _ _)
        rw [hMerged, hStored, mergedValue_of_run hName, hNamed,
          updateMoment_of_isMoment_eq_false hNot]
      stamp := by
        refine ⟨metadata.updatedAt, stamp, ?_, rfl, isNextStamp_of_advance hStamp⟩
        rw [Task.field?, Task.fieldsAt, hMetadata]
        rfl }

/-! ### Two updates -/

/-- Two values take the place of a stored one in any order if only one of them is given. -/
theorem getD_getD_comm {given other : Option Value} (h : given = none ∨ other = none)
    (stored : Value) : given.getD (other.getD stored) = other.getD (given.getD stored) := by
  rcases h with rfl | rfl <;> rfl

/-- Two moments take the place of a stored one in any order if only one of them is given. -/
theorem updateMoment_comm {given other : Option Value} (h : given = none ∨ other = none)
    (stored : Value) :
    updateMoment given (updateMoment other stored) =
      updateMoment other (updateMoment given stored) := by
  rcases h with rfl | rfl <;> rfl

/-- Two states take the place of a stored one in any order if only one of them is given. -/
theorem mergedStatus_comm {given other : Option Value} (h : given = none ∨ other = none)
    (stored : Value) :
    mergedStatus given (mergedStatus other stored) =
      mergedStatus other (mergedStatus given stored) := by
  rcases h with rfl | rfl <;> rfl

/-- The zone of a record stays if no other one is given. -/
theorem recordZone_null_recordZone (given stored : Value) :
    recordZone .null (recordZone given stored) = recordZone given stored :=
  orElse_of_isTruthy (isTruthy_orElse given (isTruthy_orElse stored rfl)) _

/-- Making up for a missing zone first does not change what a given zone leads to. -/
theorem recordZone_recordZone_null (given stored : Value) :
    recordZone given (recordZone .null stored) = recordZone given stored :=
  congrArg given.orElse (orElse_of_isTruthy (isTruthy_orElse stored rfl) _)

/-- Two zones take the place of a stored one in any order if only one of them is given. -/
theorem recordZone_comm {given other : Option Value} (h : given = none ∨ other = none)
    (stored : Value) :
    recordZone (given.getD .null) (recordZone (other.getD .null) stored) =
      recordZone (other.getD .null) (recordZone (given.getD .null) stored) := by
  rcases h with rfl | rfl
  · rw [Option.getD_none, recordZone_null_recordZone, recordZone_recordZone_null]
  · rw [Option.getD_none, recordZone_null_recordZone, recordZone_recordZone_null]

/-- Disjoint updates are merged into options in any order. -/
theorem TaskOptions.merged_comm (h : DisjointUpdates updates others) :
    (options.merged updates).merged others = (options.merged others).merged updates := by
  have hOwn (name : String) := (h .options name (ne_of_part_ne (by decide) _ _)
    (ne_of_part_ne (by decide) _ _)).symm
  simp only [TaskOptions.merged, TaskOptions.replaced, TaskOptions.mk.injEq]
  refine ⟨getD_getD_comm (hOwn _) _, ?_, getD_getD_comm (hOwn _) _, getD_getD_comm (hOwn _) _,
    getD_getD_comm (hOwn _) _, getD_getD_comm (hOwn _) _, getD_getD_comm (hOwn _) _⟩
  cases (UpdatePart.options.given? updates).isSome with
  | false => rfl
  | true =>
    cases (UpdatePart.options.given? others).isSome with
    | false => rfl
    | true => exact recordZone_comm (hOwn "timezone") _

/-- The stamp of the first update does not matter. -/
theorem TaskMetadata.merged_comm (h : DisjointUpdates updates others)
    (first first' last : Moment) :
    (metadata.merged updates first).merged others last =
      (metadata.merged others first').merged updates last := by
  have hOwn (name : String) := (h .metadata name (ne_of_part_ne (by decide) _ _)
    (ne_of_part_ne (by decide) _ _)).symm
  simp only [TaskMetadata.merged, TaskMetadata.mk.injEq]
  exact ⟨getD_getD_comm (hOwn _) _, updateMoment_comm (hOwn _) _, updateMoment_comm (hOwn _) _,
    getD_getD_comm (hOwn _) _, trivial, trivial⟩

/-- **Disjoint updates.** What two updates merge that name different fields does not depend on their
order. -/
theorem Task.merged_comm (h : DisjointUpdates updates others) (first first' last : Moment) :
    (task.merged options metadata updates first).merged (options.merged updates)
        (metadata.merged updates first) others last =
      (task.merged options metadata others first').merged (options.merged others)
        (metadata.merged others first') updates last := by
  have hName := (h .task "name" (by decide) (by decide)).symm
  have hStatus := (h .task "status" (by decide) (by decide)).symm
  have hExecute := (h .task "execute" (by decide) (by decide)).symm
  simp only [Task.merged, Task.mk.injEq, Slot.filled.injEq]
  exact ⟨trivial, getD_getD_comm hName _, mergedStatus_comm hStatus _, getD_getD_comm hExecute _,
    TaskOptions.merged_comm h, TaskMetadata.merged_comm h first first' last⟩

/-- A record after two updates has merged both of them. -/
theorem Task.eq_merged_of_two_updates {record : Task} (hOptions : task.options = .filled options)
    (hMetadata : task.metadata.metadataOrNone = .filled metadata) {first second : Wall}
    (h : (task.update updates (.universal first) >>= (·.update others (.universal second))) =
      .ok record) :
    ∃ earlier later, record = (task.merged options metadata updates earlier).merged
      (options.merged updates) (metadata.merged updates earlier) others later := by
  obtain ⟨middle, hMiddle, hRecord⟩ := bind_eq_ok.1 h
  obtain ⟨-, earlier, -, rfl⟩ := Task.eq_merged_of_update hOptions hMetadata hMiddle
  obtain ⟨-, later, -, rfl⟩ := Task.eq_merged_of_update rfl rfl hRecord
  exact ⟨earlier, later, rfl⟩

/-- Two updates without fault are merged one after the other, as long as the calendar lasts. -/
theorem Task.two_updates_eq (hOptions : task.options = .filled options)
    (hMetadata : task.metadata.metadataOrNone = .filled metadata)
    (hUpdates : ∀ fault, ¬HasFault updates fault) (hOthers : ∀ fault, ¬HasFault others fault)
    (first second : Moment) :
    (task.update updates first >>= (·.update others second)) =
      advance first metadata.updatedAt >>= fun earlier =>
        (advance second (.moment earlier)).map
          ((task.merged options metadata updates earlier).merged (options.merged updates)
            (metadata.merged updates earlier) others) := by
  rw [Task.update_eq_merged hOptions hMetadata hUpdates]
  cases advance first metadata.updatedAt with
  | error cause => rfl
  | ok earlier =>
    have hMiddle : (task.merged options metadata updates earlier).metadata.metadataOrNone =
        .filled (metadata.merged updates earlier) := rfl
    exact Task.update_eq_merged rfl hMiddle hOthers second

/-- Disjoint updates of a record are made in any order. -/
theorem Task.updatesCommute (hOptions : task.options = .filled options)
    (hMetadata : task.metadata.metadataOrNone = .filled metadata)
    (h : DisjointUpdates updates others) : task.UpdatesCommute updates others where
  records := by
    intro first second first' second' record record' hRecord hRecord'
    obtain ⟨earlier, later, rfl⟩ := Task.eq_merged_of_two_updates hOptions hMetadata hRecord
    obtain ⟨earlier', later', rfl⟩ := Task.eq_merged_of_two_updates hOptions hMetadata hRecord'
    rw [Task.merged_comm h earlier earlier' later]
    rfl
  outcome := by
    intro hUpdates hOthers first second
    rw [Task.two_updates_eq hOptions hMetadata hUpdates hOthers,
      Task.two_updates_eq hOptions hMetadata hOthers hUpdates]
    cases advance (.universal first) metadata.updatedAt with
    | error cause => rfl
    | ok earlier =>
      rw [ok_bind, ok_bind]
      exact congrArg (Except.map · _) (funext (Task.merged_comm h earlier earlier))

/-- **What updates merge.** An update of a record is refused for its first fault, or without one if the
calendar ends at the last update; otherwise it merges exactly what it names.  Two updates that name
different fields can be made in either order. -/
theorem Task.update_merges (hOptions : task.options = .filled options)
    (hMetadata : task.metadata.metadataOrNone = .filled metadata)
    (hPrevious : metadata.updatedAt.IsPreviousStamp) (updates : Value) (now : Wall) :
    (∀ fault, task.update updates (.universal now) = .error fault ↔
      IsFirstFault updates fault ∨
        fault = .outOfCalendar ∧ (∀ other, ¬HasFault updates other) ∧
          metadata.updatedAt.EndsCalendar now) ∧
    (∀ record, task.update updates (.universal now) = .ok record →
      task.Merges updates now record) ∧
    ∀ others, DisjointUpdates updates others → task.UpdatesCommute updates others := by
  refine ⟨fun fault => ?_, fun record hRecord => Task.merges_of_update hOptions hMetadata hRecord,
    fun others hDisjoint => Task.updatesCommute hOptions hMetadata hDisjoint⟩
  rcases Task.update_cases hOptions hMetadata updates (.universal now) with
    ⟨first, hFirst, hError⟩ | ⟨hNone, hMerged⟩
  · rw [hError]
    constructor
    · rintro ⟨⟩
      exact .inl hFirst
    · rintro (hFault | ⟨-, hNone, -⟩)
      · rw [hFirst.unique hFault]
      · exact absurd hFirst.1 (hNone first)
  -- without a fault only the stamp can fail
  · have hAdvance : task.update updates (.universal now) = .error fault ↔
        advance (.universal now) metadata.updatedAt = .error fault := by
      rw [hMerged]
      cases advance (.universal now) metadata.updatedAt with
      | ok stamp => exact ⟨nofun, nofun⟩
      | error cause =>
        constructor
        · rintro ⟨⟩
          rfl
        · rintro ⟨⟩
          rfl
    rw [hAdvance, advance_eq_error_iff hPrevious]
    constructor
    · rintro ⟨rfl, hEnds⟩
      exact .inr ⟨rfl, hNone, hEnds⟩
    · rintro (hFault | ⟨rfl, -, hEnds⟩)
      · exact absurd hFault.1 (hNone fault)
      · exact ⟨rfl, hEnds⟩

end updates

/-! ### Two records -/

/-- A weekly report, last updated at a given moment. -/
def reportUpdatedAt (moment : Moment) : Task where
  id := .text "x"
  name := .text "report"
  options := .filled { expression := .text "0 6 * * 1" }
  metadata := .filled { updatedAt := .moment moment }

/-- The report is started: its run is given without a moment. -/
def starting : Value :=
  .mapping
    [("status", .text "running"), ("options", .mapping [("timeout", .int 5000)]),
     ("metadata", .mapping [("run_count", .int 1), ("last_run", .text "today")])]

/-- The report is given another name. -/
def renamed : Value :=
  .mapping [("name", .text "weekly report")]

/-- Noon on a clock two hours ahead of universal time. -/
def noonAhead : Moment :=
  ⟨.onDate ⟨2024, 1, 1⟩ (Wall.timeOfDay 12 0 0 0) (by decide), .fixed 7200000000 none, .first⟩

/-- Ten o'clock in universal time, when that clock shows noon. -/
def tenOClock : Wall :=
  .onDate ⟨2024, 1, 1⟩ (Wall.timeOfDay 10 0 0 0) (by decide)

/-- A second before ten o'clock in universal time. -/
def beforeNoonAhead : Wall :=
  .onDate ⟨2024, 1, 1⟩ (Wall.timeOfDay 9 59 59 0) (by decide)

/-- The start of a task and its new name are disjoint updates. -/
theorem disjointUpdates_starting_renamed : DisjointUpdates starting renamed := by
  intro part name hNotOptions hNotMetadata
  cases part with
  | options => exact .inr rfl
  | metadata => exact .inr rfl
  | task =>
    by_cases hName : name = "name"
    · rw [hName]
      exact .inl rfl
    · refine .inr ?_
      change (if "name" = name then _ else none) = none
      rw [if_neg (Ne.symm hName)]

/-- The start of the report a second before its last update is stamped a microsecond after that
update. -/
theorem Task.update_merges_starting :
    (Value.moment noonAhead).IsPreviousStamp ∧ DisjointUpdates starting renamed ∧
      (∃ record stamp, (reportUpdatedAt noonAhead).update starting (.universal beforeNoonAhead) =
          .ok record ∧
        (reportUpdatedAt noonAhead).Merges starting beforeNoonAhead record ∧
        record.field? .metadata "updated_at" = some (.moment stamp) ∧
        stamp.instant? = some (tenOClock.count + 1 : Int)) ∧
      (reportUpdatedAt noonAhead).UpdatesCommute starting renamed := by
  have hPrevious : (Value.moment noonAhead).IsPreviousStamp := .inr ⟨noonAhead, rfl, rfl⟩
  obtain ⟨-, hMerges, hCommute⟩ := @Task.update_merges (reportUpdatedAt noonAhead) _ _ rfl rfl
    hPrevious starting beforeNoonAhead
  have hRecord := hMerges _ rfl
  obtain ⟨previous, stamp, hOld, hStamp, hNext⟩ := hRecord.stamp
  have hLater := hNext.later noonAhead tenOClock.count (Option.some.inj hOld).symm (by decide)
    (.inr (Time.Moment.keepsOffset_of_fixed rfl))
  exact ⟨hPrevious, disjointUpdates_starting_renamed, ⟨_, stamp, rfl, hRecord, hStamp, hLater⟩,
    hCommute renamed disjointUpdates_starting_renamed⟩

/-- The new name has no fault. -/
theorem not_hasFault_renamed (fault : LifecycleError) : ¬HasFault renamed fault := by
  rintro (@⟨part, _, _, hGiven, hRefuses⟩ | ⟨hNamed, -⟩)
  · cases part with
    | task =>
      obtain rfl := Option.some.inj hGiven
      exact UpdatePart.not_refuses_of_known (by decide) hRefuses
    | options => cases hGiven
    | metadata => cases hGiven
  · cases hNamed

/-- A quarter to two on 3 November 2024 on the clocks of New York, for the second time. -/
def secondQuarterToTwo : Moment :=
  ⟨.onDate ⟨2024, 11, 3⟩ (Wall.timeOfDay 1 45 0 0) (by decide), .zoned Atlas.newYork, .second⟩

/-- What a clock of universal time shows then. -/
def quarterToSeven : Wall :=
  .onDate ⟨2024, 11, 3⟩ (Wall.timeOfDay 6 45 0 0) (by decide)

/-- Six o'clock in universal time, three quarters of an hour before. -/
def sixOClock : Wall :=
  .onDate ⟨2024, 11, 3⟩ (Wall.timeOfDay 6 0 0 0) (by decide)

/-- The microsecond after a quarter to two is read for the first time. -/
def firstAfterQuarterToTwo : Moment :=
  ⟨.onDate ⟨2024, 11, 3⟩ (Wall.timeOfDay 1 45 0 1) (by decide), .zoned Atlas.newYork, .first⟩

/-- What a clock of universal time shows when a quarter to two is read for the first time, an hour
before. -/
def quarterToSix : Wall :=
  .onDate ⟨2024, 11, 3⟩ (Wall.timeOfDay 5 45 0 0) (by decide)

/-- **Stamps that are not the next ones.** An update without fault is refused if the last one was at the
last reading of the calendar, and it is stamped with a moment that lies before the last one if this one
was in the second pass over a reading. -/
theorem Task.update_lastReading_secondPass :
    (∀ fault, ¬HasFault renamed fault) ∧
      (reportUpdatedAt (.universal .last)).update renamed (.universal sixOClock) =
        .error .outOfCalendar ∧
      secondQuarterToTwo.instant? = some (quarterToSeven.count : Int) ∧
      ∃ record, (reportUpdatedAt secondQuarterToTwo).update renamed (.universal sixOClock) =
          .ok record ∧
        record.field? .metadata "updated_at" = some (.moment firstAfterQuarterToTwo) ∧
        firstAfterQuarterToTwo.instant? = some (quarterToSix.count + 1 : Int) ∧
        firstAfterQuarterToTwo.instant? ≠
          some (max (sixOClock.count : Int) (quarterToSeven.count + 1)) := by
  have hInstant : secondQuarterToTwo.instant? = some (quarterToSeven.count : Int) := by
    decide +kernel
  have hFirst : firstAfterQuarterToTwo.instant? = some (quarterToSix.count + 1 : Int) := by
    decide +kernel
  have hStamp : advance (.universal sixOClock) (.moment secondQuarterToTwo) =
      .ok firstAfterQuarterToTwo := by
    rw [advance_moment hInstant, if_pos (by decide)]
    rfl
  have hUpdate : (reportUpdatedAt secondQuarterToTwo).update renamed (.universal sixOClock) =
      (advance (.universal sixOClock) (.moment secondQuarterToTwo)).map
        ((reportUpdatedAt secondQuarterToTwo).merged { expression := .text "0 6 * * 1" }
          { updatedAt := .moment secondQuarterToTwo } renamed) :=
    Task.update_eq_merged rfl rfl not_hasFault_renamed _
  rw [hStamp] at hUpdate
  refine ⟨not_hasFault_renamed, rfl, hInstant, _, hUpdate, rfl, hFirst, ?_⟩
  rw [hFirst]
  decide

end Crontab
