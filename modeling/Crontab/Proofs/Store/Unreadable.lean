import Crontab.Proofs.Store.Failures
import Crontab.Proofs.Store.Views

/-!
# Texts that are no tasks

Other programs may put anything on a server, and under any key.  A text that is no task under a key of
a store makes the request for that one task fail, and nothing else: it is left out of the list of all
tasks, and it is removed with the others.

* `TextMap.Tells` — the texts that are tasks;
* `Session.ReadsWhatItCan` — how a store on a server copes with all the others;
* `Session.exists_readsWhatItCan` — every such store does.
-/

namespace Crontab

open Time Procedure

/-! ## Texts that are tasks -/

/-- The text under a key is a JSON text, and the mapping of a task. -/
def TextMap.Tells (texts : TextMap) (key : String) (task : Task) : Prop :=
  ∃ text json, TextMap.get texts key = some text ∧ Json.ofText text = .ok json ∧
    Task.decode json.toValue = .ok task

section tells

variable {texts : TextMap} {key : String} {task : Task}

/-- A text tells a task exactly when the task is read from it. -/
theorem TextMap.tells_iff :
    texts.Tells key task ↔ ∃ text, TextMap.get texts key = some text ∧ Task.read text = .ok task := by
  constructor
  · rintro ⟨text, json, hText, hJson⟩
    exact ⟨text, hText, Task.read_eq_ok_iff.2 ⟨json, hJson⟩⟩
  · rintro ⟨text, hText, hRead⟩
    obtain ⟨json, hJson⟩ := Task.read_eq_ok_iff.1 hRead
    exact ⟨text, json, hText, hJson⟩

/-- The record that can be read under a key is the task that is told there. -/
theorem readableRecord?_eq_some_iff :
    readableRecord? texts key = some task ↔ texts.Tells key task := by
  rw [TextMap.tells_iff, readableRecord?, Option.bind_eq_some_iff]
  refine exists_congr fun text => and_congr_right fun _ => ?_
  rw [readRecord]
  cases Task.read text with
  | error cause => constructor <;> rintro ⟨⟩
  | ok own =>
    exact ⟨fun h => congrArg Except.ok (Option.some.inj h),
      fun h => congrArg some (Except.ok.inj h)⟩

/-- A key under which a task is told is one of the keys. -/
theorem TextMap.Tells.mem_names (h : texts.Tells key task) : key ∈ Fields.names texts := by
  obtain ⟨text, json, hText, -⟩ := h
  exact List.mem_map.2 ⟨_, Fields.mem_of_get? (Option.join_eq_some_iff.1 hText), rfl⟩

end tells

/-! ## The tasks under the keys of a store -/

/-- The tasks that can be read, with their keys, in the order of a list of keys. -/
def readableEntries (texts : TextMap) (keys : List String) : Fields Task :=
  keys.filterMap fun key => (readableRecord? texts key).map fun task => (key, task)

section entries

variable {texts : TextMap} {keys : List String}

/-- The tasks that can be read are those told under the keys. -/
theorem mem_readableEntries {key : String} {task : Task} :
    (key, task) ∈ readableEntries texts keys ↔ key ∈ keys ∧ texts.Tells key task := by
  rw [readableEntries, List.mem_filterMap]
  constructor
  · rintro ⟨own, hOwn, hEntry⟩
    obtain ⟨read, hRead, hPair⟩ := Option.map_eq_some_iff.1 hEntry
    obtain ⟨rfl, rfl⟩ := Prod.mk.inj hPair
    exact ⟨hOwn, readableRecord?_eq_some_iff.1 hRead⟩
  · rintro ⟨hKey, hTells⟩
    exact ⟨key, hKey, by rw [readableRecord?_eq_some_iff.2 hTells]; rfl⟩

/-- The keys of the tasks that can be read are among the given ones, in their order. -/
theorem names_readableEntries_sublist (texts : TextMap) (keys : List String) :
    (Fields.names (readableEntries texts keys)).Sublist keys := by
  induction keys with
  | nil => exact .slnil
  | cons key keys ih =>
    rw [readableEntries, List.filterMap_cons]
    cases readableRecord? texts key with
    | none => exact ih.cons key
    | some task => exact ih.cons_cons key

/-- The tasks that can be read are those read key by key. -/
theorem map_readableEntries (texts : TextMap) (keys : List String) :
    (readableEntries texts keys).map (·.2) = keys.filterMap (readableRecord? texts) := by
  rw [readableEntries, List.map_filterMap]
  refine List.filterMap_congr fun key _ => ?_
  rw [Option.map_map]
  exact congrFun Option.map_id_fun' _

end entries

/-! ## Requests to a store on a server -/

section requests

variable {start : String} {texts : TextMap} {id : Value}

/-- On a server all tasks under keys of the store are listed that can be read. -/
theorem runFrom_getAll (start : String) (texts : TextMap) :
    runFrom (keyValueOperations (.text start)).getAll texts =
      (.ok (((Fields.names texts).filter (hasStart start)).filterMap (readableRecord? texts)),
        texts) := by
  simp only [keyValueOperations]
  rw [runFrom_bind_of_ok (runFrom_get texts), storeKeys_text]
  exact runFrom_listTexts texts _ texts

/-- On a server all keys of the store are erased, whatever their texts are. -/
theorem runFrom_clear (start : String) (texts : TextMap) :
    runFrom (keyValueOperations (.text start)).clear texts =
      (.ok (), ((Fields.names texts).filter (hasStart start)).foldl Fields.erase texts) := by
  simp only [keyValueOperations]
  rw [runFrom_bind_of_ok (runFrom_get texts), storeKeys_text]
  rfl

/-- What there is under a key after all keys with a start were removed. -/
theorem get?_foldl_erase (start : String) (texts : TextMap) (key : String) :
    Fields.get? (((Fields.names texts).filter (hasStart start)).foldl Fields.erase texts) key =
      if hasStart start key then none else Fields.get? texts key := by
  have hErased : ((Fields.names texts).filter (hasStart start)).foldl Fields.erase texts =
      Fields.within
        (fun name => !((Fields.names texts).filter (hasStart start)).contains name) texts :=
    TextMap.foldl_erase texts _
  rw [hErased]
  by_cases hMem : key ∈ (Fields.names texts).filter (hasStart start)
  · rw [if_pos (List.mem_filter.1 hMem).2, Fields.get?_within_of_not]
    simpa using hMem
  · have hKeep : Fields.get? (Fields.within
        (fun name => !((Fields.names texts).filter (hasStart start)).contains name) texts) key =
          Fields.get? texts key := by
      refine Fields.get?_within ?_ texts
      rw [Bool.not_eq_true', ← Bool.not_eq_true, List.contains_iff_mem]
      exact hMem
    rw [hKeep]
    split
    · next hStart =>
      cases hGet : Fields.get? texts key with
      | none => rfl
      | some text? =>
        have hName : key ∈ Fields.names texts := List.mem_map.2 ⟨_, Fields.mem_of_get? hGet, rfl⟩
        exact absurd (List.mem_filter.2 ⟨hName, hStart⟩) hMem
    · rfl

/-- A request for one task tells what is under its key: nothing, a task, or a text that is none. -/
theorem runFrom_findText (hId : id.isPrintable = true) :
    let key := storeKey (.text start) id
    let result := (runFrom (findText (.text start) id) texts).1
    (∃ task, texts.Tells key task ∧ result = .ok (some task)) ∨
      ((TextMap.get texts key = none ∨ TextMap.get texts key = some "") ∧ result = .ok none) ∨
      ((∃ text, TextMap.get texts key = some text ∧ text ≠ "") ∧ (∀ task, ¬texts.Tells key task) ∧
        ∃ cause, result = .error (.store (.corrupt key cause))) := by
  intro key result
  have hResult : result = (runFrom (findText (.text start) id) texts).1 := rfl
  rw [findText, runFrom_bind_of_ok (runFrom_keyOf rfl hId texts),
    runFrom_bind_of_ok (runFrom_get texts)] at hResult
  cases hText : TextMap.get texts key with
  | none =>
    rw [hText] at hResult
    exact .inr (.inl ⟨.inl rfl, hResult⟩)
  | some text =>
    rw [hText] at hResult
    by_cases hEmpty : text.isEmpty = true
    · rw [String.isEmpty_iff] at hEmpty
      subst hEmpty
      exact .inr (.inl ⟨.inr rfl, hResult⟩)
    · simp only [if_neg hEmpty] at hResult
      cases hRead : Task.read text with
      | ok task =>
        rw [readRecord, hRead] at hResult
        exact .inl ⟨task, TextMap.tells_iff.2 ⟨text, hText, hRead⟩, hResult⟩
      | error cause =>
        rw [readRecord, hRead] at hResult
        have hText' : text ≠ "" := fun h => hEmpty (String.isEmpty_iff.2 h)
        refine .inr (.inr ⟨⟨text, rfl, hText'⟩, fun task hTells => ?_, cause, hResult⟩)
        obtain ⟨own, hOwn, hOther⟩ := TextMap.tells_iff.1 hTells
        obtain rfl := Option.some.inj (hText.symm.trans hOwn)
        rw [hRead] at hOther
        cases hOther

end requests

/-! ## Sessions -/

namespace Session

/-- A request to a store on a server changes nothing but texts. -/
theorem course_onServer {session : Session} {keyPrefix : Value} {address : ServerAddress}
    (hStore : session.store = .redis keyPrefix address true) (request : Request) :
    session.course request =
      ((keyValueOperations keyPrefix).carryOut session.hosts.texts request
        (.universal session.wall) session.issuer).map fun texts =>
          (session.store, { session.hosts with texts }) := by
  rw [course, hStore]
  rfl

/-- How a store on a server copes with any texts under any keys; `entries` are its tasks with their
keys. -/
structure ReadsWhatItCan (session : Session) (start : String) (entries : Fields Task) : Prop where
  /-- There is one task for each key of the store whose text is a task. -/
  nodup : (Fields.names entries).Nodup
  mem_iff : ∀ key task, (key, task) ∈ entries ↔
    hasStart start key = true ∧ session.hosts.texts.Tells key task
  /-- These are the tasks that are listed. -/
  getAll : (session.course .getAll).reply = .ok (.listed (entries.map (·.2)))
  /-- A single task is found if it is one of them; without a text there is none, and any other text is
  reported.  All texts are printable, and identifiers are texts. -/
  get : ∀ id : Value, id.isPrintable = true →
    let key := storeKey (.text start) id
    let reply := (session.course (.get id)).reply
    (∃ task, (key, task) ∈ entries ∧ reply = .ok (.found (some task))) ∨
      ((TextMap.get session.hosts.texts key = none ∨ TextMap.get session.hosts.texts key = some "") ∧
        reply = .ok (.found none)) ∨
      ((∃ text, TextMap.get session.hosts.texts key = some text ∧ text ≠ "") ∧
        (∀ task, (key, task) ∉ entries) ∧
        ∃ cause, reply = .error (.store (.corrupt key cause)))
  /-- All keys of the store are removed together, and no others. -/
  clear : (session.course .clear).reply = .ok .cleared
  cleared : ∀ key, Fields.get? (session.course .clear).state.2.texts key =
    if hasStart start key then none else Fields.get? session.hosts.texts key

/-- **Texts that are no tasks.** Whatever is on the server, a store reads what it can. -/
theorem exists_readsWhatItCan {session : Session} {start : String} {address : ServerAddress}
    (hStore : session.store = .redis (.text start) address true)
    (hKeys : (Fields.names session.hosts.texts).Nodup) :
    ∃ entries, session.ReadsWhatItCan start entries := by
  have hCourse := course_onServer hStore
  have hMem : ∀ key task,
      (key, task) ∈ readableEntries session.hosts.texts
          ((Fields.names session.hosts.texts).filter (hasStart start)) ↔
        hasStart start key = true ∧ session.hosts.texts.Tells key task := by
    intro key task
    rw [mem_readableEntries, List.mem_filter, and_assoc]
    exact ⟨fun h => h.2, fun h => ⟨h.2.mem_names, h⟩⟩
  refine ⟨_, ?_, hMem, ?_, fun id hId => ?_, ?_, fun key => ?_⟩
  · exact (hKeys.filter _).sublist (names_readableEntries_sublist _ _)
  · rw [hCourse, Operations.carryOut, runFrom_getAll, map_readableEntries]
    rfl
  · intro key reply
    have hReply : reply =
        (runFrom (findText (.text start) id) session.hosts.texts).1.map .found :=
      congrArg Course.reply (hCourse (.get id))
    rw [hReply]
    rcases runFrom_findText hId with ⟨task, hTells, hResult⟩ | ⟨hNone, hResult⟩ |
      ⟨hText, hNot, cause, hResult⟩
    · refine .inl ⟨task, (hMem _ _).2 ⟨hasStart_storeKey start id, hTells⟩, ?_⟩
      rw [hResult]
      rfl
    · refine .inr (.inl ⟨hNone, ?_⟩)
      rw [hResult]
      rfl
    · refine .inr (.inr ⟨hText, fun task hTask => hNot task ((hMem _ _).1 hTask).2, cause, ?_⟩)
      rw [hResult]
      rfl
  · rw [hCourse, Operations.carryOut, runFrom_clear]
    rfl
  · rw [hCourse, Operations.carryOut, runFrom_clear]
    exact get?_foldl_erase start session.hosts.texts key

/-- A store on a server on which there are a task of its own, a text of its own that is none, and a text
under a key of another store. -/
def amongOthers : Session where
  store := .redis (.text "cron:") ⟨.null, .null, .null⟩ true
  hosts :=
    { texts :=
        [("cron:a", some "\x7b\"options\": \x7b\"expression\": \"0 6 * * 1\"\x7d\x7d"),
         ("cron:b", some "\x7b\"options\": []\x7d"), ("job:c", some "[")] }
  wall := Wall.first

/-- Among other texts the store reads its one task. -/
theorem exists_readsWhatItCan_amongOthers :
    (readableRecord? amongOthers.hosts.texts "cron:a").isSome = true ∧
      (readableRecord? amongOthers.hosts.texts "cron:b").isSome = false ∧
      ∃ entries, amongOthers.ReadsWhatItCan "cron:" entries :=
  ⟨by decide +kernel, by decide +kernel, exists_readsWhatItCan rfl (by decide)⟩

end Session

end Crontab
