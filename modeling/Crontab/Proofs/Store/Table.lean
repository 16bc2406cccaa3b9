import Crontab.Proofs.Store.Maps
import Crontab.Proofs.Store.Patterns
import Crontab.Proofs.Store.Rows

/-!
# The map in a database

A table in which only one store has put its rows keeps the records that are read from them.  Writing
over a row may keep its JSON columns, but the record that is read tells the same as the one that is
written.

* `TableHolds` — the records in the rows of a table;
* `isMap_tableMedium` — the medium on such a table keeps a map.
-/

namespace Crontab

/-! ## Rows and records -/

/-- A row from which a record is read, and whose columns can be written over. -/
structure Row.Holds (row : Row) (record : Task) : Prop where
  reads : rowTask row = .ok record
  regularOptions : row.options.IsRegular
  regularMetadata : row.metadata.IsRegular

/-- The rows hold the records one by one, under the same keys. -/
def RowsHold (table : Table) (records : Records) : Prop :=
  List.Forall₂ (fun row entry => row.key = entry.1 ∧ row.Holds entry.2) table records

/-- The rows of a table hold the records that are read from them. -/
def TableHolds (start : String) (table : Table) (records : Records) : Prop :=
  records.IsKeyed start ∧ RowsHold table records

/-- A row that tells a record holds the record that is read from it. -/
theorem Row.Tells.holds {row : Row} {task record : Task} (h : row.Tells task)
    (hReads : rowTask row = .ok record) : row.Holds record :=
  ⟨hReads, h.regularOptions, h.regularMetadata⟩

/-- A row is written over the only one if that has its key. -/
theorem Table.put_singleton {old row : Row} (h : old.key = row.key) :
    Table.put [old] row = [old.overwritten row] := by
  rw [Table.put, Table.find?, List.find?_cons, decide_eq_true h, List.map_singleton, if_pos h]
  rfl

namespace RowsHold

variable {table : Table} {records : Records} {key : String}

/-- A row is found under a key exactly if there is a record under it, which the row holds. -/
theorem find? (h : RowsHold table records) (key : String) :
    Option.Rel Row.Holds (table.find? key) (Fields.get? records key) := by
  induction h with
  | nil => exact .none
  | @cons row entry table records hRow _ ih =>
    obtain ⟨name, record⟩ := entry
    obtain ⟨rfl, hHolds⟩ := hRow
    rw [Table.find?, List.find?_cons, Fields.get?]
    by_cases hKey : row.key = key
    · rw [decide_eq_true hKey, if_pos hKey]
      exact .some hHolds
    · rw [decide_eq_false hKey, if_neg hKey]
      exact ih

/-- A row is found under a key exactly if there is a record under it. -/
theorem isSome_find? (h : RowsHold table records) (key : String) :
    (table.find? key).isSome = Fields.has records key := by
  have hSame : ∀ {row : Option Row} {record : Option Task}, Option.Rel Row.Holds row record →
      row.isSome = record.isSome := by
    rintro _ _ (_ | _) <;> rfl
  exact hSame (h.find? key)

/-- The rows are read in order. -/
theorem mapM_rowTask (h : RowsHold table records) :
    table.mapM rowTask = .ok (records.map (·.2)) := by
  induction h with
  | nil => rfl
  | @cons row entry table records hRow _ ih =>
    rw [List.mapM_cons, hRow.2.reads, ok_bind, ih, ok_bind]
    rfl

/-- Deleting a row erases its record. -/
theorem delete (h : RowsHold table records) (key : String) :
    RowsHold (table.delete key).2 (Fields.erase records key) := by
  rw [Table.delete]
  induction h with
  | nil => exact .nil
  | @cons row entry table records hRow _ ih =>
    rw [Fields.erase, List.filter_cons, List.filter_cons, hRow.1]
    split
    · exact .cons hRow ih
    · exact ih

/-- Writing over the row of a key that no record has changes nothing. -/
theorem map_overwritten_eq_self (h : RowsHold table records) (hKey : key ∉ Fields.names records)
    (row : Row) :
    (table.map fun old => if old.key = key then old.overwritten row else old) = table := by
  induction h with
  | nil => rfl
  | @cons own entry table records hOwn _ ih =>
    rw [Fields.names, List.map_cons, List.mem_cons, not_or, ← hOwn.1] at hKey
    rw [List.map_cons, if_neg (Ne.symm hKey.1), ih hKey.2]

/-- Writing over the row of a key changes the record of that key. -/
theorem map_overwritten (h : RowsHold table records) (hNodup : (Fields.names records).Nodup)
    {row old : Row} {kept : Task} (hOld : table.find? key = some old) (hRow : row.key = key)
    (hKept : (old.overwritten row).Holds kept) :
    RowsHold (table.map fun old => if old.key = key then old.overwritten row else old)
      (Fields.put records key kept) := by
  induction h with
  | nil => cases hOld
  | @cons own entry table records hOwn hRest ih =>
    obtain ⟨name, record⟩ := entry
    obtain ⟨rfl, hHolds⟩ := hOwn
    rw [Fields.names, List.map_cons, List.nodup_cons] at hNodup
    rw [Table.find?, List.find?_cons] at hOld
    rw [List.map_cons, Fields.put]
    by_cases hKey : own.key = key
    · rw [decide_eq_true hKey] at hOld
      obtain rfl := Option.some.inj hOld
      rw [if_pos hKey, if_pos hKey, map_overwritten_eq_self hRest (hKey ▸ hNodup.1) row]
      exact .cons ⟨hRow.trans hKey.symm, hKept⟩ hRest
    · rw [decide_eq_false hKey] at hOld
      rw [if_neg hKey, if_neg hKey]
      exact .cons ⟨rfl, hHolds⟩ (ih hNodup.2 hOld)

/-- A row of a new key is written at the end. -/
theorem append (h : RowsHold table records) {row : Row} {kept : Task} (hRow : row.key = key)
    (hKept : row.Holds kept) (hNew : table.find? key = none) :
    RowsHold (table ++ [row]) (Fields.put records key kept) := by
  have hKey : key ∉ Fields.names records := by
    intro hMem
    obtain ⟨record, hRecord⟩ := Fields.exists_get?_of_mem_names hMem
    have hFound := h.isSome_find? key
    rw [hNew, Fields.has, hRecord] at hFound
    cases hFound
  rw [Fields.put_of_not_mem hKey]
  exact List.rel_append h (.cons ⟨hRow, hKept⟩ .nil)

/-- **Writing.** A row that tells a record is written, and a record that tells the same is read from
what is written. -/
theorem put (h : RowsHold table records) (hNodup : (Fields.names records).Nodup) {row : Row}
    {task : Task} (hTask : task.IsRecord) (hRow : row.Tells task) :
    ∃ kept, task.Alike kept ∧ kept.IsRecord ∧
      RowsHold (table.put row) (Fields.put records row.key kept) := by
  rw [Table.put]
  cases hFound : table.find? row.key with
  | none =>
    obtain ⟨kept, hReads, hAlike, hKept⟩ := hRow.exists_record hTask
    exact ⟨kept, hAlike, hKept, h.append rfl (hRow.holds hReads) hFound⟩
  | some old =>
    have hOld : old.options.IsRegular ∧ old.metadata.IsRegular := by
      have hHolds := h.find? row.key
      rw [hFound] at hHolds
      generalize Fields.get? records row.key = record at hHolds
      obtain hHolds | _ := hHolds
      exact ⟨hHolds.regularOptions, hHolds.regularMetadata⟩
    have hTells := hRow.overwritten hOld.1 hOld.2
    obtain ⟨kept, hReads, hAlike, hKept⟩ := hTells.exists_record hTask
    exact ⟨kept, hAlike, hKept, h.map_overwritten hNodup hFound rfl (hTells.holds hReads)⟩

end RowsHold

/-! ## The medium -/

section medium

variable {start : String} {table : Table} {records : Records}

/-- All rows of the table have keys with the start of the store. -/
theorem hasLikePrefix_of_tableHolds (h : TableHolds start table records) :
    ∀ row ∈ table, hasLikePrefix start row.key = true := by
  obtain ⟨hKeyed, hRows⟩ := h
  have hKey := hKeyed.key
  clear hKeyed
  induction hRows with
  | nil => exact List.forall_mem_nil _
  | @cons row entry table records hRow _ ih =>
    rw [List.forall_mem_cons] at hKey
    refine List.forall_mem_cons.2 ⟨?_, ih hKey.2⟩
    rw [hRow.1, hKey.1, storeKey_text]
    exact hasLikePrefix_append start entry.2.id.plain

/-- A pattern that is not too long is searched for. -/
theorem checkPattern_eq_ok (hStart : isLongLikePattern start = false) (table : Table) :
    table.checkPattern start = .ok () := by
  rw [Table.checkPattern, hStart, Bool.and_false]
  rfl

/-- A table finds under an identifier the record that it holds under its key. -/
theorem find_tableMedium (h : RowsHold table records) (id : Value) :
    (tableMedium (.text start)).find table id =
      .ok (Fields.get? records (storeKey (.text start) id)) := by
  have hFound := h.find? (storeKey (.text start) id)
  simp only [tableMedium]
  generalize table.find? (storeKey (.text start) id) = row at hFound ⊢
  generalize Fields.get? records (storeKey (.text start) id) = record at hFound ⊢
  cases hFound with
  | none => rfl
  | some hHolds =>
    simp only [hHolds.reads]
    rfl

/-- **The table.** The medium on a table keeps the map of the records that are read from it, if its
search pattern is not too long. -/
theorem isMap_tableMedium (hStart : isLongLikePattern start = false) :
    (tableMedium (.text start)).IsMap start (TableHolds start) where
  keyed := fun hHolds => hHolds.1
  find := fun hHolds id => find_tableMedium hHolds.2 id
  list := by
    intro table records hHolds
    have hUnder : table.under start = .ok table := by
      rw [Table.under, checkPattern_eq_ok hStart, Except.map,
        List.filter_eq_self.2 (hasLikePrefix_of_tableHolds hHolds)]
    simp only [tableMedium, searchedStart_text, ok_bind, hUnder]
    exact hHolds.2.mapM_rowTask
  save := by
    intro table records hHolds task hTask
    obtain ⟨row, hRow, hKey, hTells, -⟩ := tells_taskRow hTask start
    obtain ⟨kept, hAlike, hKept, hPut⟩ := hHolds.2.put hHolds.1.nodup hTask hTells
    rw [hKey] at hPut
    refine ⟨table.put row, kept, ?_, hAlike, hKept, hHolds.1.put hKept ?_, hPut⟩
    · simp only [tableMedium, hRow]
      rfl
    · rw [hAlike.id]
  remove := by
    intro table records hHolds id
    refine ⟨(table.delete (storeKey (.text start) id)).2, ?_, hHolds.1.erase _, hHolds.2.delete _⟩
    simp only [tableMedium]
    rw [← hHolds.2.isSome_find?]
    rfl
  clear := by
    intro table records hHolds
    refine ⟨[], ?_, .nil start, .nil⟩
    have hDelete : table.deleteUnder start = .ok [] := by
      rw [Table.deleteUnder, checkPattern_eq_ok hStart, Except.map, List.filter_eq_nil_iff.2]
      intro row hRow
      rw [hasLikePrefix_of_tableHolds hHolds row hRow]
      decide
    simp only [tableMedium, searchedStart_text, ok_bind, hDelete]
    rfl

end medium

end Crontab
