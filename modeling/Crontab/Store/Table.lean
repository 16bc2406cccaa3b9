import Crontab.Json.Writer
import Crontab.Number.Significant
import Crontab.Store.Error
import Crontab.Store.Like

/-!
# A table of tasks

A table has a row for every task, with a unique key.  Identifier, name and status are columns of
texts: what is put into them becomes a text as far as it can.  Options and metadata are JSON columns.

* `Cell`, `Row`, `Table` — the table;
* `Cell.ofValue` — what a column of texts makes of a value;
* `Table.find?`, `Table.under`, `Table.insert`, `Table.put`, `Table.delete`, `Table.deleteUnder` —
  reading and changing the rows.
-/

namespace Crontab

open Number

-- Powers are those of the core library, wherever this is read.
attribute [local instance (high)] instPowNat

/-! ## Columns -/

/-- What a column of texts holds. -/
inductive Cell
  | text (value : String)
  | blob (value : String)
deriving DecidableEq, Repr

namespace Cell

/-- The value that a cell is read as. -/
def toValue : Cell → Value
  | .text s => .text s
  | .blob s => .bytes s

/-- Whether an integer fits into 64 bits. -/
def fits (n : Int) : Bool :=
  decide (-(2 ^ (63 : Nat)) ≤ n) && decide (n < 2 ^ (63 : Nat))

/-- What a column of texts makes of a value: numbers become texts, and so do truth values, which are
the numbers 0 and 1, and moments; `null` and not-a-number are no value. -/
def ofValue : Value → Except TableError (Option Cell)
  | .null => .ok none
  | .bool b => .ok (some (.text (if b then "1" else "0")))
  | .int n => if fits n then .ok (some (.text (toString n))) else .error .tooLarge
  | .float x => .ok (x.columnText?.map .text)
  | .text s => .ok (some (.text s))
  | .status s => .ok (some (.text s.name))
  | .moment m => .ok (some (.text (momentPlain m)))
  | .bytes s => .ok (some (.blob s))
  | _ => .error .notBindable

end Cell

/-! ## Rows -/

/-- A row of the table. -/
structure Row where
  key : String
  id : Cell
  name : Cell
  status : Cell
  options : Json
  metadata : Json

namespace Row

/-- The row as the mapping of a task. -/
def toFields (row : Row) : Fields Value :=
  [("id", row.id.toValue), ("name", row.name.toValue), ("status", row.status.toValue),
   ("options", row.options.toValue), ("metadata", row.metadata.toValue)]

/-- A value that has to be there. -/
def required {α : Type} : Option α → Except TableError α
  | some a => .ok a
  | none => .error .missing

/-- What a JSON column holds for a value that can be written. -/
def jsonColumn (value : Value) : Except TableError Json :=
  match value.toJson? with
  | some json => if json.isWritable then .ok json else .error .notStorable
  | none => .error .notStorable

/-- The row with given values in its columns.  The JSON columns are written first, then the values of
the others are looked at, and last whether all of them are there. -/
def ofColumns (key : String) (id name status options metadata : Value) : Except TableError Row := do
  let options ← jsonColumn options
  let metadata ← jsonColumn metadata
  let id ← Cell.ofValue id
  let name ← Cell.ofValue name
  let status ← Cell.ofValue status
  let id ← required id
  let name ← required name
  let status ← required status
  pure { key, id, name, status, options, metadata }

/-- The names of the columns. -/
def columns : List String :=
  ["key", "task_id", "name", "status", "options", "task_metadata"]

/-- The text of a column; `null` is no text. -/
def textColumn (value : Value) : Except TableError String :=
  match Cell.ofValue value with
  | .ok (some (.text s)) | .ok (some (.blob s)) => .ok s
  | .ok none => .error .missing
  | .error cause => .error cause

/-- The row with given values by the names of the columns; a row without a status is pending. -/
def ofFields (fields : Fields Value) : Except TableError Row :=
  if (Fields.names fields).all columns.contains then do
    let get (name : String) : Value := (fields.get? name).getD .null
    let status := if (get "status").isNull then .text Status.pending.name else get "status"
    let options ← required (fields.get? "options")
    let metadata ← required (fields.get? "task_metadata")
    let key ← textColumn (get "key")
    ofColumns key (get "task_id") (get "name") status options metadata
  else .error .unknownColumn

/-- The JSON value that is kept when one is written over another: the old one if the two are equal,
numbers being compared by value. -/
def keep (old new : Json) : Json :=
  if new.equals old then old else new

/-- A row after another one is written over it. -/
def overwritten (old new : Row) : Row :=
  { new with options := keep old.options new.options, metadata := keep old.metadata new.metadata }

end Row

/-! ## The table -/

/-- The rows of a table, in the order in which they were inserted. -/
abbrev Table := List Row

namespace Table

/-- The row with a given key. -/
def find? (table : Table) (key : String) : Option Row :=
  List.find? (·.key = key) table

/-- A search for the rows whose keys have a given start.  A pattern that is too long is noticed with
the first row. -/
def checkPattern (table : Table) (start : String) : Except TableError Unit :=
  if !table.isEmpty && isLongLikePattern start then .error .patternTooLong else .ok ()

/-- The rows whose keys have a given start. -/
def under (table : Table) (start : String) : Except TableError (List Row) :=
  (checkPattern table start).map fun _ => table.filter (hasLikePrefix start ·.key)

/-- The table without the rows whose keys have a given start. -/
def deleteUnder (table : Table) (start : String) : Except TableError Table :=
  (checkPattern table start).map fun _ => table.filter (!hasLikePrefix start ·.key)

/-- Inserts a row, whose key has to be new. -/
def insert (table : Table) (row : Row) : Except TableError Table :=
  if (table.find? row.key).isSome then .error .duplicate else .ok (table ++ [row])

/-- Writes a row: over the row with its key if there is one, and at the end if not. -/
def put (table : Table) (row : Row) : Table :=
  if (table.find? row.key).isSome then
    table.map fun old => if old.key = row.key then old.overwritten row else old
  else table ++ [row]

/-- Deletes the row with a given key, and tells whether there was one. -/
def delete (table : Table) (key : String) : Bool × Table :=
  ((table.find? key).isSome, List.filter (·.key ≠ key) table)

end Table

end Crontab
