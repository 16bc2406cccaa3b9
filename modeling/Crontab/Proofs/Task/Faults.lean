import Crontab.Proofs.Task.Records

/-!
# The faults of an update

An update names fields of a task, of its options and of its metadata.  Its parts and its status are
checked one after the other, and the first check that finds a fault refuses the update.

* `UpdatePart.given?`, `UpdatePart.fieldsOf`, `UpdatePart.named?` — what an update has for a part;
* `HasFault`, `IsFirstFault` — what is wrong with an update, and what is reported;
* `UpdatePart.checked_cases`, `updateStatus_cases` — what each check finds.
-/

namespace Crontab

/-! ## The fields of an update -/

namespace UpdatePart

/-- What an update has for a part: itself for the task, and for the options and the metadata what
stands under their name, where `null` is nothing. -/
def given? (updates : Value) : UpdatePart → Option Value
  | .task => some updates
  | .options => (updates.fields?.bind (Fields.get? · "options")).filter (!·.isNull)
  | .metadata => (updates.fields?.bind (Fields.get? · "metadata")).filter (!·.isNull)

/-- The fields of a part that an update names. -/
def fieldsOf (part : UpdatePart) (updates : Value) : Fields Value :=
  ((part.given? updates).bind Value.fields?).getD []

/-- The value that an update names for a field of a part. -/
def named? (part : UpdatePart) (updates : Value) (name : String) : Option Value :=
  (part.fieldsOf updates).get? name

/-- The names that a part does not know, in ascending order. -/
def unknown (part : UpdatePart) (fields : Fields Value) : List String :=
  ((Fields.names fields).filter fun name => !part.names.contains name).mergeSort
    fun a b => !decide (b < a)

/-- The place of a part in the order of checks.  The status is checked after the task. -/
def stage : UpdatePart → Nat
  | .task => 0
  | .options => 2
  | .metadata => 3

/-- The fields of a part after its check. -/
def checked (part : UpdatePart) (updates : Value) : Except LifecycleError (Fields Value) :=
  match part.given? updates with
  | none => .ok []
  | some value => updateFields part value

end UpdatePart

/-! ## Faults -/

/-- A part is refused what is given for it: it is no mapping, or some of its names are unknown. -/
inductive UpdatePart.Refuses (part : UpdatePart) : Value → LifecycleError → Prop
  | notAMapping {value : Value} (h : ∀ fields, value ≠ .mapping fields) :
    part.Refuses value (.notAMapping part)
  | unknownNames {fields : Fields Value} (h : ∃ name ∈ Fields.names fields, name ∉ part.names) :
    part.Refuses (.mapping fields) (.unknownNames part (part.unknown fields))

/-- An update has a fault: in what it gives for a part, or in its status, which is none of the five. -/
inductive HasFault (updates : Value) : LifecycleError → Prop
  | part {part : UpdatePart} {value : Value} {fault : LifecycleError}
    (hGiven : part.given? updates = some value) (h : part.Refuses value fault) :
    HasFault updates fault
  | status {value : Value} (hNamed : UpdatePart.task.named? updates "status" = some value)
    (h : ∀ status : Status, value ≠ .status status ∧ value ≠ .text status.name) :
    HasFault updates (.unknownStatus value)

/-- The place of a fault in the order of checks.  What is no mapping has no names, so that there is at
most one fault in each place. -/
def LifecycleError.stage : LifecycleError → Nat
  | .notAMapping part | .unknownNames part _ => part.stage
  | .unknownStatus _ => 1
  | _ => 4

/-- The fault is the first one of an update. -/
def IsFirstFault (updates : Value) (fault : LifecycleError) : Prop :=
  HasFault updates fault ∧ ∀ other, HasFault updates other → fault.stage ≤ other.stage

section faults

variable {part : UpdatePart} {updates value : Value} {fault other : LifecycleError}

/-- A part is refused at its own place in the order of checks. -/
theorem UpdatePart.Refuses.stage_eq (h : part.Refuses value fault) : fault.stage = part.stage := by
  cases h <;> rfl

/-- A part is refused for one reason only. -/
theorem UpdatePart.Refuses.unique (h : part.Refuses value fault) (h' : part.Refuses value other) :
    fault = other := by
  cases h with
  | notAMapping hNone =>
    cases h' with
    | notAMapping _ => rfl
    | @unknownNames fields _ => exact absurd rfl (hNone fields)
  | unknownNames _ =>
    cases h' with
    | notAMapping hNone => exact absurd rfl (hNone _)
    | unknownNames _ => rfl

/-- The place of the status in the order of checks is not that of a part. -/
theorem UpdatePart.stage_ne_one (part : UpdatePart) : part.stage ≠ 1 := by
  cases part <;> decide

/-- No two parts are checked in the same place. -/
theorem UpdatePart.stage_injective {other : UpdatePart} (h : part.stage = other.stage) :
    part = other := by
  revert h
  cases part <;> cases other <;> decide

/-- There is at most one fault in each place. -/
theorem HasFault.unique (h : HasFault updates fault) (h' : HasFault updates other)
    (hStage : fault.stage = other.stage) : fault = other := by
  cases h with
  | part hGiven hRefuses =>
    cases h' with
    | part hGiven' hRefuses' =>
      rw [hRefuses.stage_eq, hRefuses'.stage_eq] at hStage
      obtain rfl := UpdatePart.stage_injective hStage
      obtain rfl := Option.some.inj (hGiven.symm.trans hGiven')
      exact hRefuses.unique hRefuses'
    | status _ _ =>
      rw [hRefuses.stage_eq] at hStage
      exact absurd hStage (UpdatePart.stage_ne_one _)
  | status hNamed _ =>
    cases h' with
    | part _ hRefuses =>
      rw [hRefuses.stage_eq] at hStage
      exact absurd hStage.symm (UpdatePart.stage_ne_one _)
    | status hNamed' _ => rw [Option.some.inj (hNamed.symm.trans hNamed')]

/-- An update has one first fault at most. -/
theorem IsFirstFault.unique (h : IsFirstFault updates fault) (h' : IsFirstFault updates other) :
    fault = other :=
  h.1.unique h'.1 (Nat.le_antisymm (h.2 other h'.1) (h'.2 fault h.1))

/-- All faults of an update are in a place or in later ones. -/
def FaultsFrom (updates : Value) (place : Nat) : Prop :=
  ∀ fault, HasFault updates fault → place ≤ fault.stage

/-- A check that finds nothing leaves the faults in later places. -/
theorem FaultsFrom.next {place : Nat} (h : FaultsFrom updates place)
    (hNone : ∀ fault, HasFault updates fault → fault.stage ≠ place) :
    FaultsFrom updates (place + 1) := by
  intro fault hFault
  exact Nat.lt_of_le_of_ne (h fault hFault) (hNone fault hFault).symm

/-- A fault in the place that all faults start from is the first one. -/
theorem FaultsFrom.isFirstFault (h : FaultsFrom updates fault.stage)
    (hFault : HasFault updates fault) : IsFirstFault updates fault :=
  ⟨hFault, h⟩

/-- After the metadata nothing is checked. -/
theorem FaultsFrom.not_hasFault (h : FaultsFrom updates 4) (fault : LifecycleError) :
    ¬HasFault updates fault := by
  intro hFault
  have hLate := h fault hFault
  cases hFault with
  | @part part value fault hGiven hRefuses =>
    rw [hRefuses.stage_eq] at hLate
    revert hLate
    cases part <;> decide
  | status hNamed hNone =>
    have hStatus : 4 ≤ 1 := hLate
    omega

/-- A mapping has unknown names, or all of them are known. -/
theorem UpdatePart.unknown_eq_nil_iff {fields : Fields Value} :
    part.unknown fields = [] ↔ ∀ name ∈ Fields.names fields, name ∈ part.names := by
  rw [unknown, ← List.length_eq_zero_iff, List.length_mergeSort, List.length_eq_zero_iff,
    List.filter_eq_nil_iff]
  simp

/-- A mapping is accepted for a part exactly when the part knows all of its names. -/
theorem updateFields_mapping (part : UpdatePart) (fields : Fields Value) :
    updateFields part (.mapping fields) =
      if part.unknown fields = [] then .ok fields
      else .error (.unknownNames part (part.unknown fields)) := by
  have hEmpty : ((Fields.names fields).filter fun name => !part.names.contains name).isEmpty = true ↔
      part.unknown fields = [] := by
    rw [List.isEmpty_iff, UpdatePart.unknown, ← List.length_eq_zero_iff, ← List.length_eq_zero_iff,
      List.length_mergeSort]
  unfold updateFields
  simp only [hEmpty]
  rfl

/-- The check of a part refuses what is given for it, or finds a mapping of known names. -/
theorem updateFields_cases (part : UpdatePart) (value : Value) :
    (∃ fault, part.Refuses value fault ∧ updateFields part value = .error fault) ∨
      ∃ fields, value = .mapping fields ∧ (∀ name ∈ Fields.names fields, name ∈ part.names) ∧
        updateFields part value = .ok fields := by
  by_cases hMapping : ∃ fields, value = .mapping fields
  · obtain ⟨fields, rfl⟩ := hMapping
    rw [updateFields_mapping]
    by_cases hUnknown : part.unknown fields = []
    · rw [if_pos hUnknown]
      exact .inr ⟨fields, rfl, UpdatePart.unknown_eq_nil_iff.1 hUnknown, rfl⟩
    · rw [if_neg hUnknown]
      refine .inl ⟨_, .unknownNames ?_, rfl⟩
      simpa only [UpdatePart.unknown_eq_nil_iff, not_forall, exists_prop] using hUnknown
  · refine .inl ⟨_, .notAMapping (not_exists.1 hMapping), ?_⟩
    cases value with
    | mapping fields => exact absurd ⟨fields, rfl⟩ hMapping
    | _ => rfl

/-- A mapping of known names is not refused. -/
theorem UpdatePart.not_refuses_of_known {fields : Fields Value}
    (h : ∀ name ∈ Fields.names fields, name ∈ part.names) : ¬part.Refuses (.mapping fields) fault := by
  rintro (hNone | ⟨name, hMem, hUnknown⟩)
  · exact hNone fields rfl
  · exact hUnknown (h name hMem)

/-- The check of a part reports the fault in its place, or there is none and the part has known names
only. -/
theorem UpdatePart.checked_cases (part : UpdatePart) (updates : Value) :
    (∃ fault, HasFault updates fault ∧ fault.stage = part.stage ∧
        part.checked updates = .error fault) ∨
      ((∀ fault, HasFault updates fault → fault.stage ≠ part.stage) ∧
        (∀ name ∈ Fields.names (part.fieldsOf updates), name ∈ part.names) ∧
        (∀ value, part.given? updates = some value → value = .mapping (part.fieldsOf updates)) ∧
        part.checked updates = .ok (part.fieldsOf updates)) := by
  -- A fault in the place of the part is one of what is given for it.
  have hOwn : ∀ fault, HasFault updates fault → fault.stage = part.stage →
      ∃ value, part.given? updates = some value ∧ part.Refuses value fault := by
    rintro fault (⟨hGiven, hRefuses⟩ | _) hStage
    · rw [hRefuses.stage_eq] at hStage
      obtain rfl := UpdatePart.stage_injective hStage
      exact ⟨_, hGiven, hRefuses⟩
    · exact absurd hStage.symm part.stage_ne_one
  unfold checked fieldsOf
  cases hGiven : part.given? updates with
  | none =>
    refine .inr ⟨fun fault hFault hStage => ?_, nofun, nofun, rfl⟩
    obtain ⟨value, hValue, -⟩ := hOwn fault hFault hStage
    rw [hGiven] at hValue
    cases hValue
  | some value =>
    rcases updateFields_cases part value with ⟨fault, hRefuses, hError⟩ | ⟨fields, rfl, hKnown, hOk⟩
    · exact .inl ⟨fault, .part hGiven hRefuses, hRefuses.stage_eq, hError⟩
    · refine .inr ⟨fun fault hFault hStage => ?_, hKnown, ?_, hOk⟩
      · obtain ⟨value, hValue, hRefuses⟩ := hOwn fault hFault hStage
        obtain rfl := Option.some.inj (hGiven.symm.trans hValue)
        exact UpdatePart.not_refuses_of_known hKnown hRefuses
      · rintro _ ⟨⟩
        rfl

/-- The check of the status reports the fault in its place, or there is none. -/
theorem updateStatus_cases (updates stored : Value) :
    (∃ fault, HasFault updates fault ∧ fault.stage = 1 ∧
        updateStatus (UpdatePart.task.named? updates "status") stored = .error fault) ∨
      ((∀ fault, HasFault updates fault → fault.stage ≠ 1) ∧
        ∃ status, updateStatus (UpdatePart.task.named? updates "status") stored = .ok status) := by
  have hOwn : ∀ fault, HasFault updates fault → fault.stage = 1 →
      ∃ value, UpdatePart.task.named? updates "status" = some value ∧
        ∀ status : Status, value ≠ .status status ∧ value ≠ .text status.name := by
    rintro fault (⟨_, hRefuses⟩ | ⟨hNamed, hNone⟩) hStage
    · rw [hRefuses.stage_eq] at hStage
      exact absurd hStage (UpdatePart.stage_ne_one _)
    · exact ⟨_, hNamed, hNone⟩
  cases hNamed : UpdatePart.task.named? updates "status" with
  | none =>
    refine .inr ⟨fun fault hFault hStage => ?_, stored, rfl⟩
    obtain ⟨value, hValue, -⟩ := hOwn fault hFault hStage
    rw [hNamed] at hValue
    cases hValue
  | some value =>
    rw [updateStatus]
    cases hState : value.text?.bind Status.ofName? with
    | none =>
      refine .inl ⟨_, .status hNamed fun status => ?_, rfl, rfl⟩
      rw [← not_or, ← bind_ofName?_eq_some_iff, hState]
      exact nofun
    | some status =>
      refine .inr ⟨fun fault hFault hStage => ?_, _, rfl⟩
      obtain ⟨value, hValue, hNone⟩ := hOwn fault hFault hStage
      obtain rfl := Option.some.inj (hNamed.symm.trans hValue)
      rcases bind_ofName?_eq_some_iff.1 hState with hSame | hSame
      · exact (hNone status).1 hSame
      · exact (hNone status).2 hSame

end faults

end Crontab
