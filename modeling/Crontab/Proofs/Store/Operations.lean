import Crontab.Proofs.Store.KeyValue
import Crontab.Proofs.Store.Procedures

/-!
# Operations step by step and as a whole

The operations of the stores take their steps in an order of their own, and each of them does what its
medium does as a whole.

* `Operations.Follow` — operations that follow a medium;
* `FindAndSave` — procedures that find and save records, and what is added and updated by them;
* `follow_memoryOperations`, `follow_keyValueOperations`, `follow_tableOperations` — the operations of
  the stores follow their media.
-/

namespace Crontab

open Time Procedure

/-! ## Operations -/

/-- The operations on a state follow a medium, as long as the state is of some kind and requests give
texts as names. -/
structure Operations.Follow {σ : Type} (operations : Operations σ) (medium : Medium σ)
    (Kept : σ → Prop) : Prop where
  add : ∀ {state record}, record.IsWhole →
    Follows state ((medium.save state record).map fun next => (record, next))
      (runFrom (operations.add record) state)
  get : ∀ {state}, Kept state → ∀ id,
    Follows state ((medium.find state id).map fun record => (record, state))
      (runFrom (operations.get id) state)
  getAll : ∀ {state}, Kept state →
    Follows state ((medium.list state).map fun records => (records, state))
      (runFrom operations.getAll state)
  update : ∀ {state id updates}, Kept state → (Request.update id updates).HasTextNames → ∀ now,
    Follows state (medium.update state id updates now)
      (runFrom (operations.update id updates now) state)
  remove : ∀ state id, Follows state (medium.remove state id) (runFrom (operations.remove id) state)
  clear : ∀ state, Follows state ((medium.clear state).map fun next => ((), next))
    (runFrom operations.clear state)

/-! ### Finding and saving -/

/-- The procedures that find and save records follow a medium.  What is found is whole, and only for
identifiers that can be shown is anything found or saved. -/
structure FindAndSave {σ : Type} (find : Value → Procedure σ (Option Task))
    (save : Task → Procedure σ Unit) (medium : Medium σ) : Prop where
  finds : ∀ state id, Follows state ((medium.find state id).map fun record => (record, state))
    (runFrom (find id) state)
  whole : ∀ {state id record}, medium.find state id = .ok (some record) → record.IsWhole
  foundId : ∀ {state next : σ} {id found},
    runFrom (find id) state = (.ok found, next) → id.isPrintable = true
  saves : ∀ state record, Follows state ((medium.save state record).map fun next => ((), next))
    (runFrom (save record) state)
  savedId : ∀ {state next : σ} {record : Task},
    runFrom (save record) state = (.ok (), next) → record.id.isPrintable = true

namespace FindAndSave

variable {σ : Type} {find : Value → Procedure σ (Option Task)} {save : Task → Procedure σ Unit}
  {medium : Medium σ} {state : σ} {record : Task} {id : Value}

/-- A record is saved, and then shown in a message. -/
theorem follows_save (h : FindAndSave find save medium) (hName : record.name.isPrintable = true)
    (hId : (∃ next, runFrom (save record) state = (.ok (), next)) → id.isPrintable = true) :
    Follows state ((medium.save state record).map fun next => (record, next))
      (runFrom (save record >>= fun _ => report record id >>= fun _ => pure record) state) := by
  refine (h.saves state record).bind_map (fun cause hSave => by rw [hSave]; rfl)
    fun next hSave hRun => ?_
  rw [hSave]
  refine .of_run ?_
  rw [runFrom_bind_of_ok (runFrom_report hName (hId ⟨next, hRun⟩) next)]
  rfl

/-- A new record is saved as a medium saves it. -/
theorem follows_add (h : FindAndSave find save medium) (hRecord : record.IsWhole) :
    Follows state ((medium.save state record).map fun next => (record, next))
      (runFrom (save record >>= fun _ => report record record.id >>= fun _ => pure record) state) :=
  h.follows_save hRecord.name fun ⟨_, hRun⟩ => h.savedId hRun

/-- A record is found, updated and saved as a medium does it. -/
theorem follows_update (h : FindAndSave find save medium) {updates : Value}
    (hNames : (Request.update id updates).HasTextNames) (now : Moment) :
    Follows state (medium.update state id updates now)
      (runFrom
        (find id >>= fun found =>
          match found with
          | none => throw (.store (.notFound id))
          | some existing => merged existing updates now >>= fun record =>
            save record >>= fun _ => report record id >>= fun _ => pure record)
        state) := by
  refine (h.finds state id).bind_map (fun cause hFind => by rw [Medium.update, hFind])
    fun found hFind hRun => ?_
  cases found with
  | none =>
    rw [Medium.update_notFound hFind]
    exact .error _
  | some existing =>
    rw [Medium.update_found hFind]
    refine .bind_attempt (fun cause hCause => by rw [hCause]; rfl) fun record hRecord => ?_
    have hWhole := (Task.isWhole_update (h.whole hFind) hNames (mapError_eq_ok.1 hRecord)).1
    rw [hRecord, ok_bind]
    exact h.follows_save hWhole.name fun _ => h.foundId hRun

end FindAndSave

/-! ### Memory -/

/-- The records are whole, and under their own keys. -/
def Records.AreWhole (keyPrefix : Value) (records : Records) : Prop :=
  ∀ entry ∈ records, entry.1 = storeKey keyPrefix entry.2.id ∧ entry.2.IsWhole

/-- Each of the records is whole, and under its own key. -/
theorem Records.AreWhole.get? {keyPrefix : Value} {records : Records}
    (h : records.AreWhole keyPrefix) {key : String} {record : Task}
    (hRecord : Fields.get? records key = some record) :
    key = storeKey keyPrefix record.id ∧ record.IsWhole :=
  h _ (Fields.mem_of_get? hRecord)

/-- The operations in memory follow the medium in memory. -/
theorem follow_memoryOperations (keyPrefix : Value) :
    (memoryOperations keyPrefix).Follow (memoryMedium keyPrefix) (Records.AreWhole keyPrefix) where
  add := by
    intro records record hRecord
    refine .bind_keyOf fun hId => .of_run ?_
    rw [runFrom_bind_of_ok (runFrom_modify _ _),
      runFrom_bind_of_ok (runFrom_report hRecord.name hId _), runFrom_copied hRecord]
  get := by
    intro records hKept id
    refine .bind_keyOf fun _ => .bind_get ?_
    simp only [memoryMedium]
    cases hFound : Fields.get? records (storeKey keyPrefix id) with
    | none => exact .ok none records
    | some record =>
      refine .of_run ?_
      rw [runFrom_bind_of_ok (runFrom_copied (hKept.get? hFound).2 records)]
      rfl
  getAll := by
    intro records hKept
    refine .bind_get (.of_run ?_)
    exact runFrom_mapM fun entry hEntry => runFrom_copied (hKept entry hEntry).2 records
  update := by
    intro records id updates hKept hNames now
    refine .bind_keyOf fun hId => .bind_get ?_
    cases hFound : Fields.get? records (storeKey keyPrefix id) with
    | none =>
      rw [Medium.update_notFound (congrArg Except.ok hFound)]
      exact .error _
    | some existing =>
      obtain ⟨hKey, hWhole⟩ := hKept.get? hFound
      rw [Medium.update_found (congrArg Except.ok hFound)]
      refine .bind_attempt (fun cause hCause => by rw [hCause]; rfl) fun record hRecord => ?_
      -- the updated record keeps its identifier, and so goes back under the key it was found under
      obtain ⟨hRecordWhole, hId'⟩ := Task.isWhole_update hWhole hNames (mapError_eq_ok.1 hRecord)
      rw [hRecord, ok_bind]
      refine .of_run ?_
      rw [runFrom_bind_of_ok (runFrom_modify _ _),
        runFrom_bind_of_ok (runFrom_report hRecordWhole.name hId _), runFrom_copied hRecordWhole,
        hKey, hId']
  remove := by
    intro records id
    refine .bind_keyOf fun hId => .bind_get (.of_run ?_)
    rw [runFrom_bind_of_ok (runFrom_set _ _)]
    split
    · rw [runFrom_bind_of_ok (runFrom_shown hId _)]
      rfl
    · rfl
  clear := fun records => .of_run (runFrom_set [] records)

/-! ### Key-value servers -/

section server

variable {keyPrefix id : Value} {texts next : TextMap} {record : Task}

/-- A record is saved on a server as its medium saves it. -/
theorem follows_saveText (keyPrefix : Value) (texts : TextMap) (record : Task) :
    Follows texts (((keyValueMedium keyPrefix).save texts record).map fun next => ((), next))
      (runFrom (saveText keyPrefix record) texts) := by
  refine .bind_keyOf fun _ => .bind_encoded (fun hNone => ?_) fun fields hFields => ?_
  · simp only [keyValueMedium, Task.write, Task.toJson, hNone]
    rfl
  · simp only [keyValueMedium]
    cases hWrite : record.write with
    | error cause => exact .error _
    | ok text => exact .ok () _

/-- A record is found on a server as its medium finds it. -/
theorem follows_findText (keyPrefix id : Value) (texts : TextMap) :
    Follows texts (((keyValueMedium keyPrefix).find texts id).map fun record => (record, texts))
      (runFrom (findText keyPrefix id) texts) := by
  refine .bind_keyOf fun _ => .bind_get ?_
  simp only [keyValueMedium, readKey]
  cases TextMap.get texts (storeKey keyPrefix id) with
  | none => exact .ok none texts
  | some text =>
    dsimp only
    split
    · exact .ok none texts
    · cases readRecord (storeKey keyPrefix id) text with
      | error cause => exact .error cause
      | ok record => exact .ok (some record) texts

/-- What is found under a key is read from a text. -/
theorem isWhole_of_readKey {key : String} (h : readKey texts key = .ok (some record)) :
    record.IsWhole := by
  obtain ⟨text, -, hRead⟩ := readKey_eq_some_iff.1 h
  exact isWhole_of_read hRead

/-- Finding and saving on a server follow its medium. -/
theorem findAndSave_texts (keyPrefix : Value) :
    FindAndSave (findText keyPrefix) (saveText keyPrefix) (keyValueMedium keyPrefix) where
  finds texts id := follows_findText keyPrefix id texts
  whole hFind := isWhole_of_readKey hFind
  foundId hRun := by
    obtain ⟨_, _, hKey, -⟩ := runFrom_bind_eq_ok.1 hRun
    exact (runFrom_keyOf_eq_ok hKey).1
  saves texts record := follows_saveText keyPrefix texts record
  savedId hRun := by
    obtain ⟨_, _, hKey, -⟩ := runFrom_bind_eq_ok.1 hRun
    exact (runFrom_keyOf_eq_ok hKey).1

/-- The records in the texts under some keys: all that can be read. -/
theorem runFrom_listTexts (texts : TextMap) (keys : List String) (state : TextMap) :
    runFrom (listTexts (keys.map fun key => (key, TextMap.get texts key))) state =
      (.ok (keys.filterMap (readableRecord? texts)), state) := by
  induction keys with
  | nil => rfl
  | cons key keys ih =>
    rw [List.map_cons, List.filterMap_cons, readableRecord?]
    cases TextMap.get texts key with
    | none => exact ih
    | some text =>
      rw [Option.bind_some, listTexts, readRecord]
      cases Task.read text with
      | error cause => exact ih
      | ok record =>
        simp only [Except.mapError, Except.toOption]
        rw [runFrom_bind_of_ok ih]
        rfl

/-- The operations on a server follow its medium. -/
theorem follow_keyValueOperations (keyPrefix : Value) :
    (keyValueOperations keyPrefix).Follow (keyValueMedium keyPrefix) fun _ => True where
  add hRecord := (findAndSave_texts keyPrefix).follows_add hRecord
  get := fun {texts} _ id => follows_findText keyPrefix id texts
  getAll := by
    intro texts _
    refine .bind_get ?_
    simp only [keyValueMedium]
    cases storeKeys keyPrefix texts with
    | error cause => exact .error cause
    | ok keys => exact .of_run (runFrom_listTexts texts keys texts)
  update _ hNames now := (findAndSave_texts keyPrefix).follows_update hNames now
  remove := fun texts id => .bind_keyOf fun _ => .bind_get (.ok _ _)
  clear := by
    intro texts
    refine .bind_get ?_
    simp only [keyValueMedium]
    cases storeKeys keyPrefix texts with
    | error cause => exact .error cause
    | ok keys => exact .ok () _

end server

/-! ### Tables -/

section table

variable {keyPrefix id : Value} {table next : Table} {record : Task}

/-- A record is saved in a table as its medium saves it. -/
theorem follows_saveRow (keyPrefix : Value) (table : Table) (record : Task) :
    Follows table (((tableMedium keyPrefix).save table record).map fun next => ((), next))
      (runFrom (saveRow keyPrefix record) table) := by
  refine .bind_encoded (fun hNone => ?_) fun fields hFields => ?_
  · simp only [tableMedium, taskRow, hNone]
    rfl
  · refine Follows.transaction (x := .ok ((), ⟨table, table, [_]⟩))
      (.bind_keyOf fun _ => .of_run rfl) nofun fun _ last hLast => ?_
    obtain ⟨-, rfl⟩ := Prod.mk.inj (Except.ok.inj hLast)
    refine ⟨rfl, ?_⟩
    simp only [tableMedium, taskRow, hFields, Table.putAll, Columns.toRow]
    cases (Row.ofColumns (storeKey keyPrefix record.id) ((fields.get? "id").getD .null)
      ((fields.get? "name").getD .null) ((fields.get? "status").getD .null)
      ((fields.get? "options").getD .null) ((fields.get? "metadata").getD .null)).mapError
        StoreError.table <;> rfl

/-- A record is found in a table as its medium finds it. -/
theorem follows_findRow (keyPrefix id : Value) (table : Table) :
    Follows table (((tableMedium keyPrefix).find table id).map fun record => (record, table))
      (runFrom (findRow keyPrefix id) table) := by
  refine .transaction_rows (.bind_keyOf fun _ => .bind_get ?_)
  simp only [tableMedium, Transaction.begin]
  cases table.find? (storeKey keyPrefix id) with
  | none => exact .ok none _
  | some row =>
    dsimp only
    cases rowTask row with
    | error cause => exact .error cause
    | ok record => exact .ok (some record) _

/-- Finding and saving in a table follow its medium. -/
theorem findAndSave_rows (keyPrefix : Value) :
    FindAndSave (findRow keyPrefix) (saveRow keyPrefix) (tableMedium keyPrefix) where
  finds table id := follows_findRow keyPrefix id table
  whole := by
    intro table id record hFind
    simp only [tableMedium] at hFind
    split at hFind
    · cases hFind
    · obtain ⟨own, hRead, hOwn⟩ := map_eq_ok.1 hFind
      obtain rfl := Option.some.inj hOwn
      exact isWhole_of_rowTask hRead
  foundId hRun := by
    obtain ⟨_, hBody⟩ := runFrom_inTransaction_eq_ok hRun
    obtain ⟨_, _, hKey, -⟩ := runFrom_bind_eq_ok.1 hBody
    exact (runFrom_keyOf_eq_ok hKey).1
  saves table record := follows_saveRow keyPrefix table record
  savedId hRun := by
    obtain ⟨_, _, -, hSave⟩ := runFrom_bind_eq_ok.1 hRun
    obtain ⟨_, hBody⟩ := runFrom_inTransaction_eq_ok hSave
    obtain ⟨_, _, hKey, -⟩ := runFrom_bind_eq_ok.1 hBody
    exact (runFrom_keyOf_eq_ok hKey).1

/-- The rows of a table are listed as its medium lists them. -/
theorem follows_listRows (keyPrefix : Value) (table : Table) :
    Follows table (((tableMedium keyPrefix).list table).map fun records => (records, table))
      (runFrom (listRows keyPrefix) table) := by
  refine .transaction_rows (.bind_get ?_)
  simp only [tableMedium, Transaction.begin]
  refine .bind_attempt (fun cause hCause => by rw [hCause]; rfl) fun start hStart => ?_
  rw [hStart, ok_bind]
  refine .bind_attempt (fun cause hCause => by rw [hCause]; rfl) fun rows hRows => ?_
  rw [hRows, ok_bind, runFrom_mapM_attempt]
  cases rows.mapM rowTask with
  | error cause => exact .error cause
  | ok records => exact .ok records _

/-- A row of a table is deleted as its medium removes it. -/
theorem follows_deleteRow (keyPrefix id : Value) (table : Table) :
    Follows table ((tableMedium keyPrefix).remove table id)
      (runFrom (deleteRow keyPrefix id) table) :=
  .transaction_rows (.bind_keyOf fun _ => .bind_get (.ok _ _))

/-- The rows of a table are deleted as its medium is cleared. -/
theorem follows_deleteRows (keyPrefix : Value) (table : Table) :
    Follows table (((tableMedium keyPrefix).clear table).map fun next => ((), next))
      (runFrom (deleteRows keyPrefix) table) := by
  refine .transaction_rows (.bind_get ?_)
  simp only [tableMedium, Transaction.begin]
  refine .bind_attempt (fun cause hCause => by rw [hCause]; rfl) fun start hStart => ?_
  rw [hStart, ok_bind]
  refine .bind_attempt (fun cause hCause => by rw [hCause]; rfl) fun rows hRows => ?_
  rw [hRows]
  exact .ok () _

/-- The operations on a table follow its medium. -/
theorem follow_tableOperations (keyPrefix : Value) :
    (tableOperations keyPrefix).Follow (tableMedium keyPrefix) fun _ => True where
  add hRecord := (findAndSave_rows keyPrefix).follows_add hRecord
  get := fun {table} _ id => follows_findRow keyPrefix id table
  getAll := fun {table} _ => follows_listRows keyPrefix table
  update _ hNames now := (findAndSave_rows keyPrefix).follows_update hNames now
  remove := fun table id => follows_deleteRow keyPrefix id table
  clear := follows_deleteRows keyPrefix

end table

end Crontab
