import Crontab.Task.Lifecycle
import Crontab.Task.Text

/-!
# Failures of stores

* `TableError` — why a table refuses a row or a search;
* `StoreError` — why an operation of a store fails;
* `searchedStart` — the start of keys as a text to search for;
* `notFoundMessage`, `closedMessage`, `corruptMessage` — the wording of the failures that a store
  itself reports.
-/

namespace Crontab

/-- Why a table refuses a row or a search. -/
inductive TableError
  /-- A value that no JSON column can hold. -/
  | notStorable
  /-- A value of a kind that no text column takes. -/
  | notBindable
  /-- An integer that does not fit into 64 bits. -/
  | tooLarge
  /-- A column without a value. -/
  | missing
  /-- A key that is taken. -/
  | duplicate
  /-- A search pattern that is too long. -/
  | patternTooLong
  /-- A name that no column has. -/
  | unknownColumn
deriving DecidableEq, Repr

/-- Why an operation of a store fails. -/
inductive StoreError
  | lifecycle (cause : LifecycleError)
  | notFound (id : Value)
  /-- The store is not connected to what keeps its records. -/
  | closed (kind : StorageKind)
  /-- The text under a key is no task. -/
  | corrupt (key : String) (cause : ReadError)
  /-- A row is no task. -/
  | unreadable (cause : DecodeError)
  | unwritable (cause : WriteError)
  /-- The start of the keys is no text, so that no search can be made for it. -/
  | notSearchable
  | table (cause : TableError)

/-- The text that a search for keys with a given start looks for. -/
def searchedStart (keyPrefix : Value) : Except StoreError String :=
  match keyPrefix.text? with
  | some start => .ok start
  | none => .error .notSearchable

/-- The name of a kind of stores at the start of a message. -/
def StorageKind.title : StorageKind → String
  | .memory => "Memory"
  | .redis => "Redis"
  | .database => "Database"

/-- The wording of an identifier that no record has. -/
def notFoundMessage (id : Value) : String :=
  "Task with id " ++ id.plain ++ " not found"

/-- The wording of a store that is not connected. -/
def closedMessage (kind : StorageKind) : String :=
  kind.title ++ " storage used before init()"

/-- The wording of a text that is no task.  What is wrong with a text that is no JSON is left to the
reader. -/
def corruptMessage (key : String) (cause : ReadError) : String :=
  "Corrupt task record at key " ++ key ++
    match cause with
    | .text .malformed => ""
    | .text (.tooManyDigits limit) => ": " ++ limit.message
    | .mapping fault => ": " ++ fault.message

end Crontab
