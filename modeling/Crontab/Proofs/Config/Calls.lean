import Crontab.Proofs.Config.Leaves

/-!
# Calls on a configuration

Options are replaced, updated and reset in any order, and some of the calls fail.  Whatever happens,
every leaf holds what the last call supplied for it that could: later values win over earlier ones, and
nothing counts from before the options were replaced or reset.

* `ConfigCall`, `Configuration.after` — calls, and the configuration after some of them;
* `Configuration.returned` — the calls among them that did not fail;
* `ConfigCall.inForce` — the mappings that still count after such calls;
* `Leaf.lastSupplied?` — the last value that mappings supply for a leaf;
* `Configuration.takes_after` — what every run of calls preserves;
* `Configuration.lastWriterWins` — the leaves after all calls.
-/

namespace Crontab

/-! ## Calls -/

/-- A call that changes the options of a configuration. -/
inductive ConfigCall
  | set (given : Value)
  | update (given : Value)
  | reset

namespace ConfigCall

/-- The configuration that a call leads to, or the failure. -/
def run (config : Configuration) : ConfigCall → Except ConfigError Configuration
  | .set given => config.setOptions given
  | .update given => config.updateOptions given
  | .reset => .ok config.reset

/-- What is given is a plain mapping. -/
def IsPlain : ConfigCall → Prop
  | .set given | .update given => ∃ fields, given = .mapping fields ∧ ArePlainOptions fields
  | .reset => True

/-- The mappings that count after a call that did not fail. -/
def inForce (givens : List Value) : ConfigCall → List Value
  | .set given => [given]
  | .update given => givens ++ [given]
  | .reset => []

end ConfigCall

namespace Configuration

/-- The configuration after a call; a call that fails leaves it as it was. -/
def next (config : Configuration) (call : ConfigCall) : Configuration :=
  match call.run config with
  | .ok next => next
  | .error _ => config

/-- The configuration after some calls. -/
def after (config : Configuration) (calls : List ConfigCall) : Configuration :=
  calls.foldl next config

/-- Those of some calls that do not fail. -/
def returned (config : Configuration) : List ConfigCall → List ConfigCall
  | [] => []
  | call :: rest =>
    match call.run config with
    | .ok next => call :: next.returned rest
    | .error _ => config.returned rest

end Configuration

/-! ## What a leaf takes -/

namespace Leaf

/-- The last value that mappings supply for a leaf. -/
def lastSupplied? (leaf : Leaf) (givens : List Value) : Option Value :=
  (givens.filterMap leaf.supplied?).getLast?

variable {leaf : Leaf}

/-- The last mapping supplies the last value, unless it supplies none. -/
theorem lastSupplied?_append (givens : List Value) (given : Value) :
    leaf.lastSupplied? (givens ++ [given]) =
      (leaf.supplied? given).or (leaf.lastSupplied? givens) := by
  unfold lastSupplied?
  rw [List.filterMap_append, List.getLast?_append]
  cases hSupplied : leaf.supplied? given <;> simp [hSupplied]

/-- A single mapping supplies the last value or there is none. -/
theorem lastSupplied?_singleton (given : Value) :
    leaf.lastSupplied? [given] = leaf.supplied? given := by
  have hNone : leaf.lastSupplied? [] = none := rfl
  have hSame := @lastSupplied?_append leaf [] given
  rwa [List.nil_append, hNone, Option.or_none] at hSame

/-- Without a value that is supplied a leaf stays as it is. -/
theorem takes_self {fields : Fields Value} {value : Value} (h : leaf.get? fields = some value) :
    leaf.Takes (leaf.get? fields) none (leaf.get? fields) :=
  ⟨value, h, h⟩

/-- What is supplied later wins. -/
theorem Takes.trans {first second third supplied more : Option Value}
    (h : leaf.Takes first supplied second) (h' : leaf.Takes second more third) :
    leaf.Takes first (more.or supplied) third := by
  obtain ⟨middle, hMiddle, hFirst⟩ := h
  obtain ⟨out, hOut, hSecond⟩ := h'
  cases more with
  | some value => exact ⟨out, hOut, hSecond⟩
  | none =>
    obtain rfl := Option.some.inj (hMiddle.symm.trans hSecond)
    exact ⟨middle, hOut, hFirst⟩

/-- Every leaf has a value in force. -/
theorem exists_get? (options : ModuleOptions) {leaf : Leaf} (h : leaf ∈ all) :
    ∃ value, leaf.get? options.toFields = some value := by
  simp only [all, List.mem_append] at h
  rcases h with (hLeaf | hLeaf) | hLeaf
  · obtain ⟨value, hValue, -⟩ := isStable_ofModule options leaf hLeaf
    exact ⟨value, by simpa only [get?, place, part?_of_mem_ofModule hLeaf] using hValue⟩
  · obtain ⟨value, hValue, -⟩ := isStable_ofStorage options.storage leaf hLeaf
    refine ⟨value, ?_⟩
    simp only [get?, place, part?_of_mem_ofStorage hLeaf]
    exact hValue
  · obtain ⟨value, hValue, -⟩ := isStable_ofTimezone options.timezone leaf hLeaf
    refine ⟨value, ?_⟩
    simp only [get?, place, part?_of_mem_ofTimezone hLeaf]
    exact hValue

end Leaf

/-! ## Runs of calls -/

namespace Configuration

/-- Every leaf holds the last value that mappings supply for it, or its default. -/
def HoldsLast (config : Configuration) (givens : List Value) : Prop :=
  ∀ leaf ∈ Leaf.all,
    leaf.Takes (leaf.get? ModuleOptions.default.toFields) (leaf.lastSupplied? givens)
      (leaf.get? config.options.toFields)

/-- The initial configuration holds the default of every leaf. -/
theorem holdsLast_initial : initial.HoldsLast [] := by
  intro leaf hLeaf
  obtain ⟨value, hValue⟩ := Leaf.exists_get? ModuleOptions.default hLeaf
  exact Leaf.takes_self hValue

/-- **One call.** If it does not fail, the leaves hold what the mappings supply that count after it. -/
theorem HoldsLast.run {config next : Configuration} {givens : List Value}
    (h : config.HoldsLast givens) {call : ConfigCall} (hCall : call.IsPlain)
    (hRun : call.run config = .ok next) : next.HoldsLast (call.inForce givens) := by
  cases call with
  | set given =>
    obtain ⟨fields, rfl, hPlain⟩ := hCall
    intro leaf hLeaf
    rw [ConfigCall.inForce, Leaf.lastSupplied?_singleton]
    exact takes_overlay hPlain hRun leaf hLeaf
  | update given =>
    obtain ⟨fields, rfl, hPlain⟩ := hCall
    intro leaf hLeaf
    rw [ConfigCall.inForce, Leaf.lastSupplied?_append]
    exact (h leaf hLeaf).trans (takes_overlay hPlain hRun leaf hLeaf)
  | reset =>
    obtain rfl := Except.ok.inj hRun
    exact holdsLast_initial

/-- By induction on the calls, the leaves hold what the mappings supply that count in the end. -/
theorem HoldsLast.after {config : Configuration} {givens : List Value} (h : config.HoldsLast givens)
    {calls : List ConfigCall} (hCalls : ∀ call ∈ calls, call.IsPlain) :
    (config.after calls).HoldsLast ((config.returned calls).foldl ConfigCall.inForce givens) := by
  induction calls generalizing config givens with
  | nil => exact h
  | cons call rest ih =>
    rw [List.forall_mem_cons] at hCalls
    have hAfter : config.after (call :: rest) = (config.next call).after rest := rfl
    rw [hAfter, next, returned]
    cases hRun : call.run config with
    | error cause => exact ih h hCalls.2
    | ok next => exact ih (h.run hCalls.1 hRun) hCalls.2

/-- A call with a plain mapping only fails for faults of values. -/
theorem run_eq_error {config : Configuration} {call : ConfigCall} (hCall : call.IsPlain)
    {error : ConfigError} (h : call.run config = .error error) : ∃ faults, error = .faults faults := by
  cases call with
  | set given =>
    obtain ⟨fields, rfl, -⟩ := hCall
    exact overlay_eq_error h
  | update given =>
    obtain ⟨fields, rfl, -⟩ := hCall
    exact overlay_eq_error h
  | reset => cases h

/-- The mappings that count for a new configuration: the one that it is made with, if any. -/
def constructed (given : Value) : List Value :=
  if given.isNull then [] else [given]

/-- A new configuration holds what the mapping it is made with supplies, and defaults. -/
theorem holdsLast_create {given : Value} {config : Configuration}
    (hGiven : given = .null ∨ (ConfigCall.set given).IsPlain) (h : create given = .ok config) :
    config.HoldsLast (constructed given) := by
  rw [create] at h
  unfold constructed
  by_cases hNull : given.isNull = true
  · rw [if_pos hNull] at h ⊢
    obtain rfl := Except.ok.inj h
    exact holdsLast_initial
  · rw [if_neg hNull] at h ⊢
    rcases hGiven with rfl | hPlain
    · exact absurd rfl hNull
    · exact holdsLast_initial.run hPlain h

/-- **The last writer wins.** After all calls on a new configuration every leaf holds the converted form
of the last value that was supplied for it, by a call that did not fail, since the options were last
replaced or reset; if there is none it holds its default.  Calls only fail for faults of values, and
those that do change nothing. -/
theorem lastWriterWins {given : Value} {start : Configuration}
    (hGiven : given = .null ∨ (ConfigCall.set given).IsPlain) (hStart : create given = .ok start)
    {calls : List ConfigCall} (hCalls : ∀ call ∈ calls, call.IsPlain) :
    (∀ leaf ∈ Leaf.all,
      leaf.Takes (leaf.get? ModuleOptions.default.toFields)
        (leaf.lastSupplied? ((start.returned calls).foldl ConfigCall.inForce (constructed given)))
        (leaf.get? (start.after calls).options.toFields)) ∧
    ∀ before call rest, calls = before ++ call :: rest →
      ∀ error, call.run (start.after before) = .error error →
        (∃ faults, error = .faults faults) ∧
          start.after (before ++ [call]) = start.after before := by
  refine ⟨(holdsLast_create hGiven hStart).after hCalls, ?_⟩
  rintro before call rest rfl error hError
  refine ⟨run_eq_error (hCalls call (by simp)) hError, ?_⟩
  rw [after, List.foldl_append, List.foldl_cons, List.foldl_nil]
  change (start.after before).next call = start.after before
  rw [next, hError]

/-- A prefix for the keys of stores, and no kind of stores. -/
def jobsPrefix : Value :=
  .mapping [("storage", .mapping [("prefix", .text "jobs:"), ("type", .null)])]

/-- The default options with that prefix. -/
def withJobsPrefix : Configuration :=
  ⟨{ ModuleOptions.default with
      storage := { ModuleOptions.default.storage with keyPrefix := "jobs:" } }⟩

/-- Two updates: one with a word that is no truth value, and one that imposes the zone. -/
def strictCalls : List ConfigCall :=
  [.update (.mapping [("server_tasks", .text "perhaps")]),
   .update (.mapping [("timezone", .mapping [("strict", .text "yes"), ("type", .null)])])]

/-- The first of them fails, and the second one changes nothing but the flag. -/
example : withJobsPrefix.after strictCalls =
    ⟨{ withJobsPrefix.options with timezone := ⟨"UTC", true, true⟩ }⟩ := by
  decide +kernel

/-- The mapping with the prefix is plain. -/
theorem isPlain_jobsPrefix : (ConfigCall.set jobsPrefix).IsPlain := by
  refine ⟨_, rfl, by decide, ?_⟩
  simp [Fields.get?, Value.IsPlainPart, Fields.names]

/-- Both updates give plain mappings. -/
theorem isPlain_strictCalls : ∀ call ∈ strictCalls, call.IsPlain := by
  simp only [strictCalls, List.forall_mem_cons]
  refine ⟨⟨_, rfl, by decide, ?_⟩, ⟨_, rfl, by decide, ?_⟩, List.forall_mem_nil _⟩
  · simp [Fields.get?]
  · simp [Fields.get?, Value.IsPlainPart, Fields.names]

/-- After the two updates the prefix is the one the configuration was made with. -/
theorem lastWriterWins_jobsPrefix :
    create jobsPrefix = .ok withJobsPrefix ∧
      (∀ leaf ∈ Leaf.all,
        leaf.Takes (leaf.get? ModuleOptions.default.toFields)
          (leaf.lastSupplied?
            ((withJobsPrefix.returned strictCalls).foldl ConfigCall.inForce (constructed jobsPrefix)))
          (leaf.get? (withJobsPrefix.after strictCalls).options.toFields)) ∧
      ∀ before call rest, strictCalls = before ++ call :: rest →
        ∀ error, call.run (withJobsPrefix.after before) = .error error →
          (∃ faults, error = .faults faults) ∧
            withJobsPrefix.after (before ++ [call]) = withJobsPrefix.after before := by
  have hCreate : create jobsPrefix = .ok withJobsPrefix := by rfl
  exact ⟨hCreate, lastWriterWins (.inr isPlain_jobsPrefix) hCreate isPlain_strictCalls⟩

end Configuration

end Crontab
