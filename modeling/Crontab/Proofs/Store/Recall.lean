import Crontab.Proofs.Store.KeyValue
import Crontab.Proofs.Store.Rows
import Crontab.Proofs.Task.Recall

/-!
# What media retain

Whatever else a medium keeps, a proper record that is saved is found again under its identifier, with
its stamps.

* `Medium.Retains` — media from which records are recalled;
* `Row.Keeps` — the rows that keep a record;
* `Table.find?_put` — the row under a key after a row was written there;
* `retains_memoryMedium`, `retains_keyValueMedium`, `retains_tableMedium` — all media retain records.
-/

namespace Crontab

open Time

/-- A proper record that is saved is found again, with its stamps. -/
def Medium.Retains {σ : Type} (medium : Medium σ) : Prop :=
  ∀ {state next : σ} {task : Task}, task.IsStamped → task.IsProper →
    medium.save state task = .ok next →
      ∃ read, medium.find next task.id = .ok (some read) ∧ read.IsRecallOf task

/-! ## Memory and servers -/

/-- Memory finds again what is saved in it. -/
theorem retains_memoryMedium (keyPrefix : Value) : (memoryMedium keyPrefix).Retains := by
  intro records next task hStamped hProper hSave
  obtain rfl := Except.ok.inj hSave
  refine ⟨task, ?_, .refl hStamped hProper⟩
  simp only [memoryMedium, Fields.get?_put, if_true]

/-- A server finds again what is saved on it. -/
theorem retains_keyValueMedium (keyPrefix : Value) : (keyValueMedium keyPrefix).Retains := by
  intro texts next task hStamped hProper hSave
  simp only [keyValueMedium] at hSave
  cases hWrite : task.write with
  | error cause =>
    rw [hWrite] at hSave
    cases hSave
  | ok text =>
    rw [hWrite] at hSave
    obtain rfl := Except.ok.inj hSave
    obtain ⟨read, hRead, hRecall⟩ := Task.exists_recall_write hStamped hProper hWrite
    refine ⟨read, ?_, hRecall⟩
    simp only [keyValueMedium, readKey, TextMap.get, TextMap.set, Fields.get?_put, if_true,
      Option.join_some, isEmpty_of_read hRead, Bool.false_eq_true, if_false, readRecord, hRead]
    rfl

/-! ## Rows -/

/-- The row has the identifier of the record, and columns that keep its options and its metadata. -/
structure Row.Keeps (row : Row) (task : Task) : Prop where
  id : row.id.toValue = task.id
  options : ∃ options, task.options = .filled options ∧
    (Value.mapping options.toFields).IsKeptAs row.options.toValue
  metadata : (Value.mapping task.metadata.metadataRecord.encode).IsKeptAs row.metadata.toValue

section rows

variable {row old : Row} {task : Task}

theorem isProper_cell (cell : Cell) : cell.toValue.IsProper := by
  cases cell <;> trivial

/-- A row that keeps a record is read as what is recalled of it. -/
theorem Row.Keeps.exists_recall (h : row.Keeps task) (hStamped : task.IsStamped)
    (hProper : task.IsProper) : ∃ read, rowTask row = .ok read ∧ read.IsRecallOf task := by
  obtain ⟨options, hOptions, hKept⟩ := h.options
  have hOwn := hProper.options
  rw [hOptions] at hOwn
  have hOptionsProper : (Value.mapping options.toFields).IsProper :=
    ⟨options.nodup_names_toFields, hOwn⟩
  have hParts := hProper.metadata
  rw [hStamped.metadata_eq] at hParts
  have hFields : Value.HaveProperValues row.toFields :=
    ⟨isProper_cell _, isProper_cell _, isProper_cell _, hKept.isProper hOptionsProper,
      h.metadata.isProper (TaskMetadata.isProper_encode hParts), trivial⟩
  obtain ⟨read, hDecode, hRecall⟩ := Task.exists_recall hStamped hOptions hFields
    (congrArg some h.id) ⟨_, rfl, hKept⟩ ⟨_, rfl, h.metadata⟩
  refine ⟨read, ?_, hRecall⟩
  rw [rowTask, hDecode]
  rfl

/-- What is kept of a value may be an equal one that was there before. -/
theorem Value.IsKeptAs.keep {value : Value} {old new : Json} (h : value.IsKeptAs new.toValue) :
    value.IsKeptAs (Row.keep old new).toValue := by
  unfold Row.keep
  split
  · next hEquals =>
    obtain ⟨json, hJson, hAgrees⟩ := h
    exact ⟨json, hJson, hAgrees.trans ⟨new, old, rfl, rfl, Json.agrees_of_equals new hEquals⟩⟩
  · exact h

/-- A row that is written over another one still keeps its record. -/
theorem Row.Keeps.overwritten (h : row.Keeps task) : (old.overwritten row).Keeps task where
  id := h.id
  options := by
    obtain ⟨options, hOptions, hKept⟩ := h.options
    exact ⟨options, hOptions, hKept.keep⟩
  metadata := h.metadata.keep

/-- A JSON column keeps the JSON value of a value, which can be written. -/
theorem Row.jsonColumn_eq_ok {value : Value} {json : Json} (h : Row.jsonColumn value = .ok json) :
    value.toJson? = some json ∧ json.isWritable = true := by
  rw [Row.jsonColumn] at h
  cases hJson : value.toJson? with
  | none =>
    rw [hJson] at h
    cases h
  | some own =>
    rw [hJson] at h
    simp only at h
    split at h
    · next hWritable =>
      obtain rfl := Except.ok.inj h
      exact ⟨rfl, hWritable⟩
    · cases h

/-- What is required is there. -/
theorem Row.required_eq_ok {α : Type} {a? : Option α} {a : α} (h : Row.required a? = .ok a) :
    a? = some a := by
  cases a? with
  | none => cases h
  | some own => rw [Except.ok.inj h]

/-- The identifier and the JSON columns of a row are those it is made of. -/
theorem Row.ofColumns_eq_ok {key : String} {id name status options metadata : Value}
    (h : Row.ofColumns key id name status options metadata = .ok row) :
    row.key = key ∧ Cell.ofValue id = .ok (some row.id) ∧
      Row.jsonColumn options = .ok row.options ∧ Row.jsonColumn metadata = .ok row.metadata := by
  simp only [Row.ofColumns, bind_eq_ok] at h
  obtain ⟨first, hFirst, second, hSecond, cell, hCell, _, -, _, -, own, hOwn, _, -, _, -, h⟩ := h
  obtain rfl := Except.ok.inj h
  rw [Row.required_eq_ok hOwn] at hCell
  exact ⟨rfl, hCell, hFirst, hSecond⟩

/-- A record is written as a row that keeps it, under its key. -/
theorem keeps_taskRow {keyPrefix : Value} (hStamped : task.IsStamped) (hProper : task.IsProper)
    (h : taskRow keyPrefix task = .ok row) :
    row.key = storeKey keyPrefix task.id ∧ row.Keeps task := by
  obtain ⟨options, hOptions, -⟩ := hStamped.options
  obtain ⟨s, hText⟩ := hStamped.id
  rw [taskRow, Task.encode?_eq hOptions (.inr ⟨_, hStamped.metadata_eq⟩)] at h
  obtain ⟨hKey, hId, hFirst, hSecond⟩ := Row.ofColumns_eq_ok (mapError_eq_ok.1 h)
  obtain ⟨hOptionsJson, hOptionsWritable⟩ := Row.jsonColumn_eq_ok hFirst
  obtain ⟨hMetadataJson, hMetadataWritable⟩ := Row.jsonColumn_eq_ok hSecond
  have hEncoded := Task.isProper_encoded hProper hOptions hStamped.metadata_eq
  obtain ⟨-, -, -, -, hOptionsProper, hMetadataProper, -⟩ := hEncoded
  have hCell : row.id = .text s := by
    have hOwn : Cell.ofValue task.id = .ok (some row.id) := hId
    rw [hText] at hOwn
    exact (Option.some.inj (Except.ok.inj hOwn)).symm
  exact ⟨hKey,
    { id := by rw [hCell, hText]; rfl
      options := ⟨options, hOptions, hOptionsProper.isKeptAs hOptionsJson hOptionsWritable⟩
      metadata := hMetadataProper.isKeptAs hMetadataJson hMetadataWritable }⟩

end rows

/-! ## Tables -/

/-- The row under a key after a row was written there: that row, or the one that was there with that
row written over it. -/
theorem Table.find?_put (table : Table) (row : Row) :
    ∃ kept, (table.put row).find? row.key = some kept ∧
      (kept = row ∨ ∃ old : Row, table.find? row.key = some old ∧ kept = old.overwritten row) := by
  have hOver : ∀ {rows : Table} {old : Row}, rows.find? row.key = some old →
      Table.find? (rows.map fun own => if own.key = row.key then own.overwritten row else own)
        row.key = some (old.overwritten row) := by
    intro rows old hFound
    induction rows with
    | nil => cases hFound
    | cons own rows ih =>
      rw [Table.find?, List.map_cons, List.find?_cons]
      rw [Table.find?, List.find?_cons] at hFound
      by_cases hKey : own.key = row.key
      · have hSame : (own.overwritten row).key = row.key := rfl
        rw [decide_eq_true hKey] at hFound
        obtain rfl := Option.some.inj hFound
        rw [if_pos hKey, decide_eq_true hSame]
      · rw [decide_eq_false hKey] at hFound
        rw [if_neg hKey, decide_eq_false hKey]
        exact ih hFound
  rw [Table.put]
  cases hFound : table.find? row.key with
  | some old =>
    rw [Option.isSome_some, if_pos rfl]
    exact ⟨_, hOver hFound, .inr ⟨old, rfl, rfl⟩⟩
  | none =>
    have hNone : List.find? (·.key = row.key) table = none := hFound
    rw [Option.isSome_none, if_neg Bool.false_ne_true, Table.find?, List.find?_append, hNone]
    exact ⟨row, by simp, .inl rfl⟩

/-- A table finds again what is saved in it. -/
theorem retains_tableMedium (keyPrefix : Value) : (tableMedium keyPrefix).Retains := by
  intro table next task hStamped hProper hSave
  obtain ⟨row, hRow, rfl⟩ := map_eq_ok.1 hSave
  obtain ⟨hKey, hKeeps⟩ := keeps_taskRow hStamped hProper hRow
  obtain ⟨kept, hFound, hKept⟩ := Table.find?_put table row
  have hKeptKeeps : kept.Keeps task := by
    rcases hKept with rfl | ⟨old, -, rfl⟩
    · exact hKeeps
    · exact hKeeps.overwritten
  obtain ⟨read, hRead, hRecall⟩ := hKeptKeeps.exists_recall hStamped hProper
  rw [hKey] at hFound
  refine ⟨read, ?_, hRecall⟩
  simp only [tableMedium, hFound, hRead]
  rfl

/-- A medium that is not connected saves nothing, and so has nothing to find again. -/
theorem retains_closed (kind : StorageKind) : (Medium.closed kind).Retains := by
  intro state next task _ _ hSave
  cases hSave

end Crontab
