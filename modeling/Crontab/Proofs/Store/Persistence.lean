import Crontab.Proofs.Store.Failures
import Crontab.Proofs.Store.Recall
import Crontab.Proofs.Task.Persistence

/-!
# Valid tasks in stores

A valid task is added to a store, and its record is looked for.  Every connected store takes the task;
from memory the record comes back valid, and from a server or a database all that is wrong with it is
that there is nothing to execute.  In a database this is so unless a row with the same key is written
over, of which a column that is equal to the new one stays.

* `Operations.Recalls` — operations that add a record and find one that was read for it;
* `recalls_memoryOperations`, `recalls_keyValueOperations`, `recalls_tableOperations` — the three media;
* `Store.Overwrites` — nothing of an earlier row is left when a record is written;
* `Session.validity_persists` — valid tasks and the records that are found.
-/

namespace Crontab

open Time Procedure

/-! ## Adding and finding -/

/-- A record is added, and another one is found for it. -/
def Operations.Recalls {σ : Type} (operations : Operations σ) (state : σ) (record read : Task) :
    Prop :=
  ∃ kept, runFrom (operations.add record) state = (.ok record, kept) ∧
    runFrom (operations.get record.id) kept = (.ok (some read), kept)

section recalls

variable {keyPrefix : Value} {read : Task}

/-- Memory finds the record itself. -/
theorem recalls_memoryOperations (record : Task) (hPrefix : keyPrefix.isPrintable = true)
    (hId : record.id.isPrintable = true) (hRecord : record.IsWhole) (records : Records) :
    (memoryOperations keyPrefix).Recalls records record record := by
  refine ⟨Fields.put records (storeKey keyPrefix record.id) record, ?_, ?_⟩
  · rw [memoryOperations, runFrom_bind_of_ok (runFrom_keyOf hPrefix hId records),
      runFrom_bind_of_ok (runFrom_modify _ _),
      runFrom_bind_of_ok (runFrom_report hRecord.name hId _), runFrom_copied hRecord]
  · rw [memoryOperations, runFrom_bind_of_ok (runFrom_keyOf hPrefix hId _),
      runFrom_bind_of_ok (runFrom_get _)]
    simp only [Fields.get?_put, if_true]
    rw [runFrom_bind_of_ok (runFrom_copied hRecord _)]
    rfl

/-- The mapping of a record is made if the message of its last error can be shown. -/
theorem runFrom_encoded {σ : Type} {record : Task} {fields : Fields Value} {metadata : TaskMetadata}
    (hFields : record.encode? = some fields) (hMetadata : record.metadata = .filled metadata)
    (hMessage : metadata.lastError.isPrintable = true) (state : σ) :
    runFrom (encoded record) state = (.ok fields, state) := by
  have hRead : record.metadata.readMetadata? = some metadata := by
    rw [hMetadata]
    rfl
  have hShown : ∃ message, runFrom (failureMessage metadata.lastError) state =
      (.ok message, state) := by
    rw [failureMessage]
    split
    · exact ⟨"", rfl⟩
    · exact ⟨_, runFrom_shown hMessage state⟩
  obtain ⟨message, hShown⟩ := hShown
  rw [encoded, hFields, hRead]
  dsimp only
  rw [runFrom_bind_of_ok hShown]
  rfl

/-- A server finds what is read for the text of the record. -/
theorem recalls_keyValueOperations (record : Task) {fields : Fields Value}
    {metadata : TaskMetadata} {text : String} (hPrefix : keyPrefix.isPrintable = true)
    (hId : record.id.isPrintable = true)
    (hName : record.name.isPrintable = true) (hFields : record.encode? = some fields)
    (hMetadata : record.metadata = .filled metadata)
    (hMessage : metadata.lastError.isPrintable = true) (hWrite : record.write = .ok text)
    (hRead : Task.read text = .ok read) (texts : TextMap) :
    (keyValueOperations keyPrefix).Recalls texts record read := by
  refine ⟨TextMap.set texts (storeKey keyPrefix record.id) text, ?_, ?_⟩
  · have hSave : runFrom (saveText keyPrefix record) texts =
        (.ok (), TextMap.set texts (storeKey keyPrefix record.id) text) := by
      rw [saveText, runFrom_bind_of_ok (runFrom_keyOf hPrefix hId texts),
        runFrom_bind_of_ok (runFrom_encoded hFields hMetadata hMessage texts), hWrite]
      rfl
    rw [keyValueOperations, runFrom_bind_of_ok hSave,
      runFrom_bind_of_ok (runFrom_report hName hId _)]
    rfl
  · have hGet : TextMap.get (TextMap.set texts (storeKey keyPrefix record.id) text)
        (storeKey keyPrefix record.id) = some text := by
      rw [TextMap.get, TextMap.set, Fields.get?_put, if_pos rfl]
      rfl
    change runFrom (findText keyPrefix record.id) _ = _
    rw [findText, runFrom_bind_of_ok (runFrom_keyOf hPrefix hId _),
      runFrom_bind_of_ok (runFrom_get _), hGet]
    dsimp only
    rw [isEmpty_of_read hRead, if_neg Bool.false_ne_true, readRecord, hRead]
    rfl

/-- A database finds what is read from the row of the record, if nothing is left of an earlier
one. -/
theorem recalls_tableOperations (record : Task) {fields : Fields Value}
    {metadata : TaskMetadata} {row : Row} {table : Table} (hPrefix : keyPrefix.isPrintable = true)
    (hId : record.id.isPrintable = true)
    (hName : record.name.isPrintable = true) (hFields : record.encode? = some fields)
    (hMetadata : record.metadata = .filled metadata)
    (hMessage : metadata.lastError.isPrintable = true)
    (hRow : taskRow keyPrefix record = .ok row) (hKey : row.key = storeKey keyPrefix record.id)
    (hRead : rowTask row = .ok read)
    (hOver : ∀ old, table.find? row.key = some old → old.overwritten row = row) :
    (tableOperations keyPrefix).Recalls table record read := by
  have hFound : (table.put row).find? (storeKey keyPrefix record.id) = some row := by
    obtain ⟨kept, hKept, rfl | ⟨old, hOld, rfl⟩⟩ := Table.find?_put table row
    · rw [← hKey, hKept]
    · rw [← hKey, hKept, hOver old hOld]
  -- the transaction is run to its end: one merge, which the commit flushes
  have hSave : runFrom (saveRow keyPrefix record) table = (.ok (), table.put row) := by
    have hColumns : (Columns.mk (storeKey keyPrefix record.id) ((fields.get? "id").getD .null)
        ((fields.get? "name").getD .null) ((fields.get? "status").getD .null)
        ((fields.get? "options").getD .null) ((fields.get? "metadata").getD .null)).toRow =
          .ok row := by
      rw [taskRow, hFields] at hRow
      exact hRow
    rw [saveRow, runFrom_bind_of_ok (runFrom_encoded hFields hMetadata hMessage table),
      runFrom_inTransaction, bind_assoc, runFrom_bind_of_ok (runFrom_keyOf hPrefix hId _)]
    dsimp only [Transaction.merge]
    rw [runFrom_bind_of_ok (runFrom_modify _ _), Transaction.commit, bind_assoc,
      runFrom_bind_of_ok (runFrom_get _)]
    dsimp only [Transaction.begin, List.nil_append, Transaction.flush]
    rw [hColumns]
    rfl
  refine ⟨table.put row, ?_, ?_⟩
  · rw [tableOperations, runFrom_bind_of_ok hSave, runFrom_bind_of_ok (runFrom_report hName hId _)]
    rfl
  · change runFrom (findRow keyPrefix record.id) _ = _
    rw [findRow, runFrom_inTransaction, bind_assoc,
      runFrom_bind_of_ok (runFrom_keyOf hPrefix hId _), bind_assoc,
      runFrom_bind_of_ok (runFrom_get _)]
    dsimp only [Transaction.begin]
    rw [hFound]
    dsimp only
    rw [hRead]
    rfl

end recalls

/-! ## Rows -/

section rows

variable {task : Task} {options : TaskOptions} {now : Moment}

/-- What is written as a text is kept in a column of texts. -/
theorem Cell.ofValue_of_encodeStatus {value : Value} {s : String}
    (h : encodeStatus value = .text s) : Cell.ofValue value = .ok (some (.text s)) := by
  cases value with
  | text own => rw [Cell.ofValue, Value.text.inj h]
  | status state => rw [Cell.ofValue, Value.text.inj h]
  | _ => cases h

/-- The row of texts, of which some may be given as states. -/
theorem ofColumns_encodeStatus {id name : Value} {key first second status : String}
    {options metadata : Json} (hId : encodeStatus id = .text first)
    (hName : encodeStatus name = .text second) (hOptions : options.IsRegular)
    (hMetadata : metadata.IsRegular) :
    Row.ofColumns key id name (.text status) options.toValue metadata.toValue =
      .ok ⟨key, .text first, .text second, .text status, options, metadata⟩ := by
  rw [Row.ofColumns, jsonColumn_toValue hOptions, jsonColumn_toValue hMetadata]
  simp only [ok_bind, Cell.ofValue_of_encodeStatus hId, Cell.ofValue_of_encodeStatus hName]
  rfl

/-- The record of a sound task is written as a row, which is read as what is left of it. -/
theorem exists_taskRow (h : task.IsSound now) (hTask : task.IsRecordable)
    (hOptions : task.options = .filled options) (wall : Wall) (keyPrefix : Value) :
    ∃ row, taskRow keyPrefix (task.recorded options (.universal wall)) = .ok row ∧
      row.key = storeKey keyPrefix task.id ∧
      rowTask row = .ok (task.recorded options (.universal wall)).withPlainNames.restored := by
  have hStorable := h.isStorable_recorded hTask hOptions wall
  generalize hRecord : task.recorded options (.universal wall) = record at hStorable ⊢
  obtain ⟨id, hId⟩ := exists_encodeStatus_of_text? hTask.id
  obtain ⟨name, hName⟩ := exists_encodeStatus_of_text? (isSome_text?_of_nameViolations h.name)
  obtain ⟨status, hStatus⟩ : ∃ s, encodeStatus task.status = .text s := by
    obtain ⟨state, hState⟩ := exists_state h.status
    refine exists_encodeStatus_of_text? ?_
    cases hText : task.status.text? with
    | none =>
      rw [hText] at hState
      cases hState
    | some text => rfl
  obtain ⟨own, hOwn, hJson⟩ := hStorable.options
  obtain ⟨first, hFirst, hFirstValue⟩ :=
    Value.IsJson.mapping own.nodup_names_toFields hJson
  obtain ⟨second, hSecond, hSecondValue⟩ := TaskMetadata.isJson_encode hStorable.record
  have hRecordOptions : record.options = .filled own := hOwn
  have hFilled : record.metadata = .filled record.metadata.metadataRecord := by
    rw [← hRecord]
    rfl
  have hEncode : record.encode? =
      some [("id", task.id), ("name", task.name), ("status", .text status),
        ("options", first.toValue), ("metadata", second.toValue)] := by
    rw [Task.encode?_eq hRecordOptions (.inr ⟨_, hFilled⟩), Task.encoded, hFirstValue, hSecondValue,
      ← hStatus, ← hRecord]
    rfl
  refine ⟨⟨storeKey keyPrefix task.id, .text id, .text name, .text status, first, second⟩, ?_, rfl,
    ?_⟩
  · have hKey : record.id = task.id := by
      rw [← hRecord]
      rfl
    rw [taskRow, hEncode, hKey]
    exact congrArg (Except.mapError StoreError.table)
      (ofColumns_encodeStatus hId hName hFirst hSecond)
  · have hFields : Row.toFields
        ⟨storeKey keyPrefix task.id, .text id, .text name, .text status, first, second⟩ =
          record.withPlainNames.encoded own := by
      simp only [Row.toFields, Cell.toValue, Task.encoded, ← hId, ← hName, ← hStatus, hFirstValue,
        hSecondValue, ← hRecord]
      rfl
    rw [rowTask, hFields, decodeFields_encoded hOwn hStorable.record]
    rfl

end rows

/-! ## Stores -/

/-- The store can be used. -/
def Store.IsConnected : Store → Prop
  | .memory _ _ => True
  | .redis _ _ connected => connected = true
  | .database _ _ .closed => False
  | .database _ _ _ => True

/-- If the record is written as a row over another one, nothing of that one is left: no JSON column
is equal to the new one without being the same. -/
def Store.Overwrites (store : Store) (hosts : Hosts) (record : Task) : Prop :=
  ∀ table row old, store.table? hosts = some table → taskRow store.keyPrefix record = .ok row →
    table.find? row.key = some old → old.overwritten row = row

namespace Session

variable {session : Session} {task record read : Task}

/-- Operations that recall a record answer with it, and later on with what is read for it. -/
theorem replies_of_recalls {σ : Type} {operations : Operations σ} (embed : σ → Store × Hosts)
    {state : σ} {issuer : Issuer}
    (hAdd : session.course (.add task) =
      (operations.carryOut state (.add task) (.universal session.wall) session.issuer).map embed)
    (hGet : ∀ kept id now issuer,
      ((embed kept).1.carryOut (embed kept).2 (.get id) now issuer).reply =
        (operations.carryOut kept (.get id) now issuer).reply)
    (hCreate : task.create .null (.universal session.wall) session.issuer = (.ok record, issuer))
    (h : operations.Recalls state record read) :
    (session.course (.add task)).reply = .ok (.recorded record) ∧
      ∀ wall, ((session.proceedAll [.request (.add task), .clock wall]).course (.get record.id)).reply =
        .ok (.found (some read)) := by
  obtain ⟨kept, hSaved, hFound⟩ := h
  have hCourse : session.course (.add task) = ⟨.ok (.recorded record), embed kept, issuer⟩ := by
    rw [hAdd, Operations.carryOut, hCreate]
    dsimp only
    rw [hSaved]
    rfl
  refine ⟨by rw [hCourse], fun wall => ?_⟩
  have hLast : session.proceedAll [.request (.add task), .clock wall] =
      ⟨(embed kept).1, (embed kept).2, wall, issuer⟩ := by
    simp only [proceedAll, List.foldl_cons, List.foldl_nil, proceed, hCourse]
  rw [hLast, course, hGet, Operations.carryOut, hFound]
  rfl

/-- What a store finds of a record: memory the record itself, and the others what is left of it. -/
def foundRecord (kind : StorageKind) (record : Task) : Task :=
  if kind = .memory then record else record.withPlainNames.restored

section media

variable {options : TaskOptions} {now : Moment}

/-- A database recalls the record of a sound task, if nothing is left of an earlier row. -/
theorem recalls_recorded_table (h : task.IsSound now) (hTask : task.IsRecordable)
    (hOptions : task.options = .filled options) (wall : Wall) {keyPrefix : Value} {table : Table}
    (hPrefix : keyPrefix.isPrintable = true)
    (hOver : ∀ row old, taskRow keyPrefix (task.recorded options (.universal wall)) = .ok row →
      table.find? row.key = some old → old.overwritten row = row) :
    (tableOperations keyPrefix).Recalls table (task.recorded options (.universal wall))
      (task.recorded options (.universal wall)).withPlainNames.restored := by
  obtain ⟨row, hRow, hKey, hRead⟩ := exists_taskRow h hTask hOptions wall keyPrefix
  exact recalls_tableOperations (task.recorded options (.universal wall)) hPrefix
    (Value.isPrintable_of_text? hTask.id)
    (Value.isPrintable_of_text? (isSome_text?_of_nameViolations h.name))
    (Task.encode?_eq rfl (.inr ⟨_, rfl⟩)) rfl hTask.record.message hRow hKey hRead
    fun old hOld => hOver row old hRow hOld

/-- A server recalls the record of a sound task. -/
theorem recalls_recorded_texts (h : task.IsSound now) (hTask : task.IsRecordable)
    (hOptions : task.options = .filled options) (wall : Wall) {keyPrefix : Value}
    (hPrefix : keyPrefix.isPrintable = true) (texts : TextMap) :
    (keyValueOperations keyPrefix).Recalls texts (task.recorded options (.universal wall))
      (task.recorded options (.universal wall)).withPlainNames.restored := by
  obtain ⟨text, hWrite, hRead⟩ := Task.exists_write h hTask hOptions wall
  exact recalls_keyValueOperations (task.recorded options (.universal wall)) hPrefix
    (Value.isPrintable_of_text? hTask.id)
    (Value.isPrintable_of_text? (isSome_text?_of_nameViolations h.name))
    (Task.encode?_eq rfl (.inr ⟨_, rfl⟩)) rfl hTask.record.message hWrite hRead texts

/-- Memory recalls the record of a sound task. -/
theorem recalls_recorded_records (h : task.IsSound now) (hTask : task.IsRecordable)
    (options : TaskOptions) (wall : Wall) {keyPrefix : Value}
    (hPrefix : keyPrefix.isPrintable = true) (records : Records) :
    (memoryOperations keyPrefix).Recalls records (task.recorded options (.universal wall))
      (task.recorded options (.universal wall)) := by
  have hName : task.name.isPrintable = true :=
    Value.isPrintable_of_text? (isSome_text?_of_nameViolations h.name)
  exact recalls_memoryOperations (task.recorded options (.universal wall)) hPrefix
    (Value.isPrintable_of_text? hTask.id) ⟨hName, ⟨_, rfl⟩, ⟨_, rfl⟩⟩ records

/-- A connected store takes a sound task and finds its record. -/
theorem replies_of_isSound (h : task.IsSound now) (hTask : task.IsRecordable)
    (hOptions : task.options = .filled options) (hConnected : session.store.IsConnected)
    (hPrefix : session.store.keyPrefix.isPrintable = true)
    (hOver : session.store.Overwrites session.hosts
      (task.recorded options (.universal session.wall))) :
    (session.course (.add task)).reply =
        .ok (.recorded (task.recorded options (.universal session.wall))) ∧
      ∀ wall, ((session.proceedAll [.request (.add task), .clock wall]).course (.get task.id)).reply =
        .ok (.found (some (foundRecord session.store.kind
          (task.recorded options (.universal session.wall))))) := by
  have hCreate := Task.create_of_isSound h hTask hOptions session.wall session.issuer
  obtain ⟨store, hosts, now, issuer⟩ := session
  cases store with
  | memory keyPrefix records =>
    exact replies_of_recalls (fun next => (.memory keyPrefix next, hosts)) rfl
      (fun _ _ _ _ => rfl) hCreate (recalls_recorded_records h hTask options now hPrefix records)
  | redis keyPrefix address connected =>
    obtain rfl : connected = true := hConnected
    exact replies_of_recalls (fun texts => (.redis keyPrefix address true, { hosts with texts })) rfl
      (fun _ _ _ _ => rfl) hCreate (recalls_recorded_texts h hTask hOptions now hPrefix hosts.texts)
  | database keyPrefix address connection =>
    cases connection with
    | closed => exact hConnected.elim
    | memory table =>
      exact replies_of_recalls
        (fun table => (.database keyPrefix address (.memory table), hosts)) rfl
        (fun _ _ _ _ => rfl) hCreate
        (recalls_recorded_table h hTask hOptions now hPrefix fun row old => hOver table row old rfl)
    | file path =>
      refine replies_of_recalls
        (fun table => (.database keyPrefix address (.file path), hosts.withFile path table))
        rfl (fun kept id now issuer => ?_) hCreate
        (recalls_recorded_table h hTask hOptions now hPrefix
          fun row old => hOver (hosts.file path) row old rfl)
      rw [Store.carryOut, file_withFile]
      rfl

end media

/-- **Valid tasks.** A valid task that can be recorded is taken by every connected store, and its
record is found under its identifier.  Whenever there is a verdict on the task, the record that memory
finds is valid, and all that is wrong with what a server or a database finds is that there is nothing
to execute. -/
theorem validity_persists {checked : Wall} {verdict : Verdict}
    (hVerdict : Subject.task.validate task.toValue (.universal checked) = .ok verdict)
    (hValid : verdict.valid = true) (hTask : task.IsRecordable)
    (hConnected : session.store.IsConnected)
    (hPrefix : session.store.keyPrefix.isPrintable = true)
    (hOver : ∀ record, (task.create .null (.universal session.wall) session.issuer).1 = .ok record →
      session.store.Overwrites session.hosts record) :
    ∃ record read,
      (session.course (.add task)).reply = .ok (.recorded record) ∧
      (∀ wall, ((session.proceedAll [.request (.add task), .clock wall]).course (.get task.id)).reply =
        .ok (.found (some read))) ∧
      ∀ later other, Subject.task.validate task.toValue (.universal later) = .ok other →
        Subject.task.validate read.toValue (.universal later) =
          .ok ⟨if session.store.kind = .memory then [] else [Violation.notExecutable.message]⟩ := by
  obtain ⟨hSound, hExecute⟩ := Task.isSound_of_valid hVerdict hValid
  obtain ⟨options, hOptions, -⟩ := hTask.options
  have hCreate := Task.create_of_isSound hSound hTask hOptions session.wall session.issuer
  obtain ⟨hAdd, hGet⟩ := replies_of_isSound hSound hTask hOptions hConnected hPrefix
    (hOver _ (congrArg Prod.fst hCreate))
  refine ⟨_, _, hAdd, hGet, fun later other hOther => ?_⟩
  unfold foundRecord
  by_cases hKind : session.store.kind = .memory
  · rw [if_pos hKind, if_pos hKind]
    exact hSound.validate_recorded hTask hOptions hExecute hOther (.universal session.wall)
  · rw [if_neg hKind, if_neg hKind]
    exact hSound.validate_restored hTask hOptions hOther (.universal session.wall)

/-- A task that is retried and has something to execute, with the number of retries as it is
given. -/
def retriedAction (retries : Value) : Task :=
  { retriedTask retries with execute := .action }

/-- A retried task with something to execute can be stored once it is a record. -/
theorem isRecordable_retriedAction {retries : Value} (h : retries.IsJson) :
    (retriedAction retries).IsRecordable where
  id := rfl
  options := ⟨_, rfl, by
    simp only [TaskOptions.AreJson, TaskOptions.toFields, List.forall_mem_cons]
    exact ⟨.text _, .null, h, .null, .null, .null, .null, List.forall_mem_nil _⟩⟩
  metadata := .inr ⟨_, rfl, TaskMetadata.isRecordable_default⟩

/-- Read back from a database, the retried task lacks nothing but what there was to execute. -/
theorem validity_persists_retriedAction :
    Subject.task.validate (retriedAction (.int 1)).toValue (.universal inDatabase.wall) =
        .ok ⟨[]⟩ ∧
      (retriedAction (.int 1)).IsRecordable ∧ inDatabase.store.IsConnected ∧
      ∃ record read,
        (inDatabase.course (.add (retriedAction (.int 1)))).reply = .ok (.recorded record) ∧
        (∀ wall, ((inDatabase.proceedAll
            [.request (.add (retriedAction (.int 1))), .clock wall]).course (.get (.text "x"))).reply =
          .ok (.found (some read))) ∧
        ∀ later other,
          Subject.task.validate (retriedAction (.int 1)).toValue (.universal later) = .ok other →
            Subject.task.validate read.toValue (.universal later) =
              .ok ⟨[Violation.notExecutable.message]⟩ := by
  have hValid : Subject.task.validate (retriedAction (.int 1)).toValue (.universal inDatabase.wall) =
      .ok ⟨[]⟩ := rfl
  have hTask : (retriedAction (.int 1)).IsRecordable := isRecordable_retriedAction (.int (by decide))
  refine ⟨hValid, hTask, trivial, validity_persists hValid rfl hTask trivial rfl ?_⟩
  -- There is no row yet.
  rintro record - table row old ⟨⟩ - ⟨⟩

/-- **A count over an equal truth value.** In a database the number of retries of a valid task does not
take the place of a truth value that is equal to it, so that the record that is found is not valid for
another reason as well. -/
theorem countOverTruth_invalid :
    let session := inDatabase.proceed (.request (.add (retriedAction (.bool true))))
    Subject.task.validate (retriedAction (.int 1)).toValue (.universal session.wall) = .ok ⟨[]⟩ ∧
      (retriedAction (.int 1)).IsRecordable ∧ session.store.IsConnected ∧
      ∃ read,
        ((session.proceed (.request (.add (retriedAction (.int 1))))).course
            (.get (.text "x"))).reply = .ok (.found (some read)) ∧
        Subject.task.validate read.toValue (.universal session.wall) =
          .ok ⟨[Violation.notExecutable.message, Violation.retriesNotNatural.message]⟩ :=
  ⟨rfl, isRecordable_retriedAction (.int (by decide)), trivial, _, rfl, rfl⟩

end Session

end Crontab
