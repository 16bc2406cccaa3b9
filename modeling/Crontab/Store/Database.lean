import Crontab.Store.Medium
import Crontab.Store.Table

/-!
# Records in a database

The records are the rows of a table, for any number of stores.  A store finds a record by its exact
key, and all of its records by a search for keys with a start of its own.

* `taskRow` — the row of a task;
* `rowTask` — the task of a row;
* `tableMedium` — the medium of a store on such a table.
-/

namespace Crontab

/-- The row of a task under a given start of keys. -/
def taskRow (keyPrefix : Value) (task : Task) : Except StoreError Row :=
  match task.encode? with
  | none => .error (.unwritable .missingAttribute)
  | some fields =>
    let get (name : String) : Value := (fields.get? name).getD .null
    (Row.ofColumns (storeKey keyPrefix task.id) (get "id") (get "name") (get "status")
      (get "options") (get "metadata")).mapError .table

/-- The task of a row. -/
def rowTask (row : Row) : Except StoreError Task :=
  (Task.decodeFields row.toFields).mapError .unreadable

/-- Keeps records as the rows of a table, under the given start of their keys. -/
def tableMedium (keyPrefix : Value) : Medium Table where
  find table id :=
    match table.find? (storeKey keyPrefix id) with
    | none => .ok none
    | some row => (rowTask row).map some
  list table := do
    let rows ← (table.under (← searchedStart keyPrefix)).mapError .table
    rows.mapM rowTask
  save table task := (taskRow keyPrefix task).map table.put
  remove table id := .ok (table.delete (storeKey keyPrefix id))
  clear table := do (table.deleteUnder (← searchedStart keyPrefix)).mapError .table

end Crontab
