import Crontab.Store.Basic

/-!
# Operations step by step

`Medium.perform` tells what a request leads to as a whole.  Here a request is carried out in the
order of its steps: a text is made before it is put under a key, the message about a record is made
after the record was written, and the rows of a table are changed in a transaction.  A step that
fails ends the operation, and what the steps before it changed stays changed, unless a transaction
is rolled back.

* `Procedure` — operations that may break off on their way, and what they have done by then;
* `memoryOperations`, `keyValueOperations`, `tableOperations` — the operations of the three media;
* `Transaction`, `inTransaction` — changes of a table that are kept together or not at all;
* `Store.carryOut` — carries out a request step by step.
-/

namespace Crontab

open Time

/-! ## Procedures -/

/-- Why an operation breaks off. -/
inductive Breakdown
  | store (cause : StoreError)
  /-- A value that has to be shown in a key or a message has no text. -/
  | unprintable

/-- An operation on a state.  A step that fails ends it, and leaves the state as it is by then. -/
abbrev Procedure (σ α : Type) := ExceptT Breakdown (StateM σ) α

namespace Procedure

variable {σ α : Type}

/-- What a procedure leads to: a result or a failure, and in both cases a state. -/
def runFrom (procedure : Procedure σ α) (state : σ) : Except Breakdown α × σ :=
  procedure state

/-- A step that may fail, but has nothing to do with the state. -/
def attempt : Except StoreError α → Procedure σ α
  | .ok a => pure a
  | .error cause => throw (.store cause)

/-- The text of a value. -/
def shown (value : Value) : Procedure σ String :=
  if value.isPrintable then pure value.plain else throw .unprintable

/-- The key of an identifier. -/
def keyOf (keyPrefix id : Value) : Procedure σ String := do
  let start ← shown keyPrefix
  let text ← shown id
  pure (start ++ text)

/-- The message about a record that was written, with its name and its identifier. -/
def report (record : Task) (id : Value) : Procedure σ Unit := do
  let _ ← shown record.name
  let _ ← shown id

/-- The copy of a record that is handed out. -/
def copied (record : Task) : Procedure σ Task :=
  attempt (record.clone.mapError .lifecycle)

/-- A record with updates merged into it. -/
def merged (existing : Task) (updates : Value) (now : Moment) : Procedure σ Task :=
  attempt ((existing.update updates now).mapError .lifecycle)

/-- The message of an error, if there is one. -/
def failureMessage (error : Value) : Procedure σ String :=
  if error.isNull then pure "" else shown error

/-- The mapping of a record, with the message of its last error. -/
def encoded (record : Task) : Procedure σ (Fields Value) :=
  match record.encode?, record.metadata.readMetadata? with
  | some fields, some metadata => do
    let _ ← failureMessage metadata.lastError
    pure fields
  | _, _ => throw (.store (.unwritable .missingAttribute))

end Procedure

open Procedure

/-- The operations of a store.  New tasks are records already when they are added. -/
structure Operations (σ : Type) where
  add : Task → Procedure σ Task
  get : Value → Procedure σ (Option Task)
  getAll : Procedure σ (List Task)
  update : (id updates : Value) → Moment → Procedure σ Task
  remove : Value → Procedure σ Bool
  clear : Procedure σ Unit

/-! ## Memory -/

/-- The operations on records in memory, which hand out copies. -/
def memoryOperations (keyPrefix : Value) : Operations Records where
  add record := do
    let key ← keyOf keyPrefix record.id
    modify fun records => Fields.put records key record
    report record record.id
    copied record
  get id := do
    let key ← keyOf keyPrefix id
    let records ← get
    match Fields.get? records key with
    | none => pure none
    | some record => return some (← copied record)
  getAll := do
    let records ← get
    records.mapM fun entry => copied entry.2
  update id updates now := do
    let key ← keyOf keyPrefix id
    let records ← get
    match Fields.get? records key with
    | none => throw (.store (.notFound id))
    | some existing =>
      let record ← merged existing updates now
      modify fun records => Fields.put records key record
      report record id
      copied record
  remove id := do
    let key ← keyOf keyPrefix id
    let records ← get
    set (Fields.erase records key)
    if Fields.has records key then
      let _ ← shown id
    pure (Fields.has records key)
  clear := set ([] : Records)

/-! ## Key-value servers -/

section server

variable (keyPrefix : Value)

/-- Writes the text of a record under its key. -/
def saveText (record : Task) : Procedure TextMap Unit := do
  let key ← keyOf keyPrefix record.id
  let _ ← encoded record
  let text ← attempt (record.write.mapError .unwritable)
  modify fun texts => TextMap.set texts key text

/-- The record under the key of an identifier, if there is a text that is not empty. -/
def findText (id : Value) : Procedure TextMap (Option Task) := do
  let key ← keyOf keyPrefix id
  let texts ← get
  match TextMap.get texts key with
  | none => pure none
  | some text => if text.isEmpty then pure none else return some (← attempt (readRecord key text))

/-- The records in the texts under some keys.  A corrupt one is passed over; any other failure would
end the operation. -/
def listTexts : List (String × Option String) → Procedure TextMap (List Task)
  | [] => pure []
  | (_, none) :: rest => listTexts rest
  | (key, some text) :: rest =>
    match readRecord key text with
    | .ok record => return record :: (← listTexts rest)
    | .error (.corrupt _ _) => listTexts rest
    | .error cause => throw (.store cause)

/-- The operations on texts in a key-value server. -/
def keyValueOperations : Operations TextMap where
  add record := do
    saveText keyPrefix record
    report record record.id
    pure record
  get id := findText keyPrefix id
  getAll := do
    let texts ← get
    let keys ← attempt (storeKeys keyPrefix texts)
    listTexts (keys.map fun key => (key, TextMap.get texts key))
  update id updates now := do
    match ← findText keyPrefix id with
    | none => throw (.store (.notFound id))
    | some existing =>
      let record ← merged existing updates now
      saveText keyPrefix record
      report record id
      pure record
  remove id := do
    let key ← keyOf keyPrefix id
    let texts ← get
    set (TextMap.delete texts key).2
    pure (TextMap.delete texts key).1
  clear := do
    let texts ← get
    let keys ← attempt (storeKeys keyPrefix texts)
    modify fun texts => keys.foldl Fields.erase texts

end server

/-! ## Transactions -/

/-- What is put into the columns of a row. -/
structure Columns where
  key : String
  id : Value
  name : Value
  status : Value
  options : Value
  metadata : Value

/-- The row with these columns. -/
def Columns.toRow (columns : Columns) : Except StoreError Row :=
  (Row.ofColumns columns.key columns.id columns.name columns.status columns.options
    columns.metadata).mapError .table

/-- A transaction: the rows that are kept, the rows as they are changed, and the columns that are
still to be written. -/
structure Transaction where
  kept : Table
  rows : Table
  pending : List Columns

namespace Transaction

/-- The transaction that starts on a table. -/
def begin (table : Table) : Transaction := ⟨table, table, []⟩

/-- Puts columns in line to be written. -/
def merge (columns : Columns) : Procedure Transaction Unit :=
  modify fun transaction => { transaction with pending := transaction.pending ++ [columns] }

/-- Writes columns one after the other. -/
def flush : List Columns → Procedure Transaction Unit
  | [] => pure ()
  | columns :: rest => do
    let row ← attempt columns.toRow
    modify fun transaction => { transaction with rows := Table.put transaction.rows row }
    flush rest

/-- Writes what is in line, and keeps the rows. -/
def commit : Procedure Transaction Unit := do
  let transaction ← get
  flush transaction.pending
  modify fun transaction => ⟨transaction.rows, transaction.rows, []⟩

/-- Drops all changes. -/
def rollback : Procedure Transaction Unit :=
  modify fun transaction => ⟨transaction.kept, transaction.kept, []⟩

end Transaction

/-- Carries out a procedure in a transaction, which is rolled back if the procedure or the commit
fails. -/
def inTransaction {α : Type} (body : Procedure Transaction α) : Procedure Table α := do
  let table ← get
  let program : Procedure Transaction α :=
    tryCatch
      (do
        let result ← body
        Transaction.commit
        pure result)
      fun cause => do
        Transaction.rollback
        throw cause
  let (result, transaction) := runFrom program (.begin table)
  set transaction.kept
  match result with
  | .ok a => pure a
  | .error cause => throw cause

/-! ## Tables -/

section table

variable (keyPrefix : Value)

/-- Writes a record as a row. -/
def saveRow (record : Task) : Procedure Table Unit := do
  let fields ← encoded record
  inTransaction do
    let key ← keyOf keyPrefix record.id
    let field (name : String) : Value := (fields.get? name).getD .null
    Transaction.merge
      { key
        id := field "id"
        name := field "name"
        status := field "status"
        options := field "options"
        metadata := field "metadata" }

/-- The record in the row of an identifier, if there is one. -/
def findRow (id : Value) : Procedure Table (Option Task) :=
  inTransaction do
    let key ← keyOf keyPrefix id
    let transaction ← get
    match transaction.rows.find? key with
    | none => pure none
    | some row => return some (← attempt (rowTask row))

/-- The records in the rows whose keys have the start of the store. -/
def listRows : Procedure Table (List Task) :=
  inTransaction do
    let transaction ← get
    let start ← attempt (searchedStart keyPrefix)
    let rows ← attempt ((transaction.rows.under start).mapError .table)
    rows.mapM fun row => attempt (rowTask row)

/-- Deletes the row of an identifier, and tells whether there was one. -/
def deleteRow (id : Value) : Procedure Table Bool :=
  inTransaction do
    let key ← keyOf keyPrefix id
    let transaction ← get
    set { transaction with rows := (transaction.rows.delete key).2 }
    pure (transaction.rows.delete key).1

/-- Deletes the rows whose keys have the start of the store. -/
def deleteRows : Procedure Table Unit :=
  inTransaction do
    let transaction ← get
    let start ← attempt (searchedStart keyPrefix)
    let rows ← attempt ((transaction.rows.deleteUnder start).mapError .table)
    set { transaction with rows := rows }

/-- The operations on the rows of a table. -/
def tableOperations : Operations Table where
  add record := do
    saveRow keyPrefix record
    report record record.id
    pure record
  get id := findRow keyPrefix id
  getAll := listRows keyPrefix
  update id updates now := do
    match ← findRow keyPrefix id with
    | none => throw (.store (.notFound id))
    | some existing =>
      let record ← merged existing updates now
      saveRow keyPrefix record
      report record id
      pure record
  remove id := deleteRow keyPrefix id
  clear := deleteRows keyPrefix

end table

/-! ## Stores -/

/-- The operations of a store that is not connected: all of them fail.  One that looks for a single
record on a server makes its key before. -/
def closedOperations (keyPrefix : Value) (kind : StorageKind) : Operations Unit where
  add _ := throw (.store (.closed kind))
  get id := do
    if kind = .redis then
      let _ ← keyOf keyPrefix id
    throw (.store (.closed kind))
  getAll := throw (.store (.closed kind))
  update id _ _ := do
    if kind = .redis then
      let _ ← keyOf keyPrefix id
    throw (.store (.closed kind))
  remove _ := throw (.store (.closed kind))
  clear := throw (.store (.closed kind))

/-- How a request went: an answer or a breakdown, and what is kept at the end. -/
structure Course (σ : Type) where
  reply : Except Breakdown Reply
  state : σ
  issuer : Issuer

/-- The course of a procedure. -/
def Course.ofRun {σ α : Type} (answer : α → Reply) (issuer : Issuer)
    (run : Except Breakdown α × σ) : Course σ :=
  ⟨run.1.map answer, run.2, issuer⟩

/-- The course with its state seen as part of another one. -/
def Course.map {σ τ : Type} (course : Course σ) (embed : σ → τ) : Course τ :=
  ⟨course.reply, embed course.state, course.issuer⟩

/-- Carries out a request at a moment. -/
def Operations.carryOut {σ : Type} (operations : Operations σ) (state : σ) (request : Request)
    (now : Moment) (issuer : Issuer) : Course σ :=
  match request with
  | .add task =>
    match task.create .null now issuer with
    | (.error cause, next) => ⟨.error (.store (.lifecycle cause)), state, next⟩
    | (.ok record, next) => .ofRun .recorded next (runFrom (operations.add record) state)
  | .get id => .ofRun .found issuer (runFrom (operations.get id) state)
  | .getAll => .ofRun .listed issuer (runFrom operations.getAll state)
  | .update id updates => .ofRun .recorded issuer (runFrom (operations.update id updates now) state)
  | .remove id => .ofRun .removed issuer (runFrom (operations.remove id) state)
  | .clear => .ofRun (fun _ => .cleared) issuer (runFrom operations.clear state)

/-- Carries out a request at a moment, step by step. -/
def Store.carryOut (store : Store) (hosts : Hosts) (request : Request) (now : Moment)
    (issuer : Issuer) : Course (Store × Hosts) :=
  match store with
  | .memory keyPrefix records =>
    ((memoryOperations keyPrefix).carryOut records request now issuer).map fun records =>
      (.memory keyPrefix records, hosts)
  | .redis keyPrefix _ true =>
    ((keyValueOperations keyPrefix).carryOut hosts.texts request now issuer).map fun texts =>
      (store, { hosts with texts })
  | .redis keyPrefix _ false =>
    ((closedOperations keyPrefix .redis).carryOut () request now issuer).map fun _ => (store, hosts)
  | .database keyPrefix address (.memory table) =>
    ((tableOperations keyPrefix).carryOut table request now issuer).map fun table =>
      (.database keyPrefix address (.memory table), hosts)
  | .database keyPrefix _ (.file path) =>
    ((tableOperations keyPrefix).carryOut (hosts.file path) request now issuer).map fun table =>
      (store, hosts.withFile path table)
  | .database keyPrefix _ .closed =>
    ((closedOperations keyPrefix .database).carryOut () request now issuer).map fun _ => (store, hosts)

end Crontab
