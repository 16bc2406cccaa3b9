import Crontab.Proofs.Store.WriteBack

/-!
# Records under their own keys

A store on a server writes every record under the key of its identifier, and finds the same identifier
when it reads the record back.  As long as there are no records of others under the keys of the store,
every update is therefore written back where the record was read.

* `TextMap.IsFiled` — texts under the keys of the tasks that they tell;
* `isFiled_carryOut` — one request;
* `Session.isFiled_proceedAll`, `Session.writesBack_own` — runs.
-/

namespace Crontab

open Time Procedure

/-! ## Records of one's own -/

/-- Every task that is told under a key of the store has the identifier of that key. -/
def TextMap.IsFiled (texts : TextMap) (start : String) : Prop :=
  ∀ key task, hasStart start key = true → texts.Tells key task →
    key = storeKey (.text start) task.id

/-- New tasks are proper and have a text as their identifier, or none, and updates are proper. -/
def Request.IsProper : Request → Prop
  | .add task => (task.id = .null ∨ ∃ s, task.id = .text s) ∧ task.IsProper
  | .update _ updates => updates.IsProper
  | _ => True

/-- The step gives proper values. -/
def SessionStep.IsProper : SessionStep → Prop
  | .request given => given.IsProper
  | .clock _ => True

section filed

variable {start : String} {texts : TextMap} {record : Task} {text : String}

/-- Texts without a key of the store are filed. -/
theorem TextMap.isFiled_of_forall_names
    (h : ∀ key ∈ Fields.names texts, hasStart start key = false) : texts.IsFiled start := by
  intro key task hStart hTells
  rw [h key hTells.mem_names] at hStart
  cases hStart

/-- The text of a record stands under the key of its identifier. -/
theorem TextMap.IsFiled.set (h : texts.IsFiled start) (hTold : record.IsTold)
    (hWrite : record.write = .ok text) :
    (TextMap.set texts (storeKey (.text start) record.id) text).IsFiled start := by
  intro key task hStart hTells
  obtain ⟨own, hOwn, hRead⟩ := TextMap.tells_iff.1 hTells
  rw [TextMap.get, TextMap.set, Fields.get?_put] at hOwn
  split at hOwn
  · next hKey =>
    obtain rfl := Option.some.inj hOwn
    obtain ⟨read, hReadBack, hId, -⟩ := hTold.exists_read hWrite
    obtain rfl := Except.ok.inj (hReadBack.symm.trans hRead)
    rw [← hKey, hId]
  · exact h key task hStart (TextMap.tells_iff.2 ⟨own, hOwn, hRead⟩)

/-- Leaving out some texts leaves the others filed. -/
theorem TextMap.IsFiled.within (h : texts.IsFiled start) (keep : String → Bool) :
    TextMap.IsFiled (Fields.within keep texts) start := by
  intro key task hStart hTells
  obtain ⟨own, hOwn, hRead⟩ := TextMap.tells_iff.1 hTells
  rw [TextMap.get] at hOwn
  by_cases hKeep : keep key = true
  · rw [Fields.get?_within hKeep] at hOwn
    exact h key task hStart (TextMap.tells_iff.2 ⟨own, hOwn, hRead⟩)
  · rw [Fields.get?_within_of_not (Bool.eq_false_iff.2 hKeep)] at hOwn
    cases hOwn

/-- Erasing some keys leaves the other texts filed. -/
theorem TextMap.IsFiled.foldl_erase (h : texts.IsFiled start) (keys : List String) :
    TextMap.IsFiled (keys.foldl Fields.erase texts) start := by
  rw [TextMap.foldl_erase]
  exact h.within fun name => !keys.contains name

end filed

section operations

variable {start : String} {texts : TextMap} {record : Task}

/-- A record is saved under the key of its identifier, or nothing happens. -/
theorem isFiled_saveText (h : texts.IsFiled start) (hTold : record.IsTold) :
    (runFrom (saveText (.text start) record) texts).2.IsFiled start := by
  have hFollows := follows_saveText (.text start) texts record
  simp only [keyValueMedium] at hFollows
  generalize runFrom (saveText (.text start) record) texts = run at hFollows
  cases hWrite : record.write with
  | error cause =>
    rw [hWrite] at hFollows
    cases hFollows <;> exact h
  | ok text =>
    rw [hWrite] at hFollows
    cases hFollows
    · exact h.set hTold hWrite
    · exact h

/-- What is saved is reported, which changes nothing more. -/
theorem isFiled_saved (h : texts.IsFiled start) (hTold : record.IsTold) (id : Value) :
    (runFrom (do saveText (.text start) record; report record id; pure record)
      texts).2.IsFiled start := by
  refine runFrom_bind_state (P := (TextMap.IsFiled · start)) (isFiled_saveText h hTold)
    fun _ next _ hNext => ?_
  refine runFrom_bind_state (P := (TextMap.IsFiled · start)) ?_ fun _ _ _ hLast => hLast
  rwa [runFrom_report_state]

/-- An update with proper values leaves the texts filed. -/
theorem isFiled_update (h : texts.IsFiled start) {updates : Value} (hUpdates : updates.IsProper)
    (id : Value) (wall : Wall) :
    (runFrom ((keyValueOperations (.text start)).update id updates (.universal wall))
      texts).2.IsFiled start := by
  refine runFrom_bind_state (P := (TextMap.IsFiled · start))
    ((runFrom_findText_state _ id texts).symm ▸ h) fun found next hFind hNext => ?_
  cases found with
  | none => exact hNext
  | some existing =>
    obtain ⟨rfl, hTells⟩ := runFrom_findText_eq_ok hFind
    obtain ⟨_, -, hRead⟩ := TextMap.tells_iff.1 hTells
    dsimp only
    rw [merged]
    cases hUpdate : existing.update updates (.universal wall) with
    | error cause => exact h
    | ok record =>
      exact isFiled_saved h ((Task.isTold_of_read hRead).update hUpdates hUpdate) id

/-- A removal leaves the texts filed. -/
theorem isFiled_remove (h : texts.IsFiled start) (id : Value) :
    (runFrom ((keyValueOperations (.text start)).remove id) texts).2.IsFiled start := by
  refine runFrom_bind_state (P := (TextMap.IsFiled · start))
    ((runFrom_keyOf_state _ id texts).symm ▸ h) fun key next _ hNext => ?_
  exact hNext.foldl_erase [key]

/-- **One request.** Records stay under their own keys. -/
theorem isFiled_carryOut (h : texts.IsFiled start) {request : Request} (hProper : request.IsProper)
    (wall : Wall) (issuer : Issuer) :
    ((keyValueOperations (.text start)).carryOut texts request (.universal wall)
      issuer).state.IsFiled start := by
  cases request with
  | add task =>
    obtain ⟨hId, hTask⟩ := hProper
    rw [Operations.carryOut]
    cases hCreate : task.create .null (.universal wall) issuer with
    | mk result next =>
      cases result with
      | error cause => exact h
      | ok record =>
        have hRecord : (task.create .null (.universal wall) issuer).1 = .ok record := by
          rw [hCreate]
        exact isFiled_saved h (Task.isTold_create hId hTask hRecord) _
  | get id =>
    have hState : (runFrom (findText (.text start) id) texts).2.IsFiled start := by
      rwa [runFrom_findText_state]
    exact hState
  | getAll =>
    rw [Operations.carryOut, runFrom_getAll]
    exact h
  | update id updates => exact isFiled_update h hProper id wall
  | remove id => exact isFiled_remove h id
  | clear =>
    rw [Operations.carryOut, runFrom_clear]
    exact h.foldl_erase _

end operations

/-! ## Runs of one's own -/

namespace Session

variable {session : Session} {start : String} {address : ServerAddress} {id updates : Value}
  {record : Task} {steps : List SessionStep}

/-- By induction on the steps, the store stays on the server, and the records under its keys stay under
their own ones. -/
theorem isFiled_proceedAll (hStore : session.store = .redis (.text start) address true)
    (hFiled : session.hosts.texts.IsFiled start) (hSteps : ∀ step ∈ steps, step.IsProper) :
    (session.proceedAll steps).store = .redis (.text start) address true ∧
      (session.proceedAll steps).hosts.texts.IsFiled start := by
  induction steps generalizing session with
  | nil => exact ⟨hStore, hFiled⟩
  | cons step steps ih =>
    rw [List.forall_mem_cons] at hSteps
    cases step with
    | request request =>
      refine ih (store_proceed hStore request) ?_ hSteps.2
      rw [proceed, course_onServer hStore]
      exact isFiled_carryOut hFiled hSteps.1 session.wall session.issuer
    | clock wall =>
      have hClock : (session.proceed (.clock wall)).hosts.texts.IsFiled start := hFiled
      exact ih hStore hClock hSteps.2

/-- **No update is lost.** If there are no records of others under the keys of a store, then after every
run of the store, every update that succeeds is written back. -/
theorem writesBack_own (hStore : session.store = .redis (.text start) address true)
    (hFresh : ∀ key ∈ Fields.names session.hosts.texts, hasStart start key = false)
    (hSteps : ∀ step ∈ steps, step.IsProper) (hUpdates : updates.IsProper)
    (hReply : ((session.proceedAll steps).course (.update id updates)).reply =
      .ok (.recorded record)) :
    (session.proceedAll steps).WritesBack start id updates record := by
  obtain ⟨hServer, hFiled⟩ :=
    isFiled_proceedAll hStore (TextMap.isFiled_of_forall_names hFresh) hSteps
  obtain ⟨hId, existing, text, hRewrites⟩ := exists_rewrites hServer hReply
  have hKey := hFiled _ existing (hasStart_storeKey start id) hRewrites.tells
  exact hRewrites.writesBack hServer hId hUpdates (storeKey_inj.1 hKey).symm

end Session

end Crontab
