import Crontab.Json.Reader
import Crontab.Json.Writer
import Crontab.Task.Codec

/-!
# Tasks as texts

A task is written as the JSON text of its mapping and read back from it.

* `Task.write` — the text of a task;
* `Task.read` — the task of a text;
* `WriteError`, `ReadError` — the causes of failure.
-/

namespace Crontab

/-- Why a task cannot be written. -/
inductive WriteError
  /-- What stands in the place of the options or the metadata lacks an attribute. -/
  | missingAttribute
  /-- A part of the task has no written form. -/
  | notWritable
deriving DecidableEq, Repr

/-- Why a text is no task. -/
inductive ReadError
  | text (fault : Json.Fault)
  | mapping (fault : DecodeError)
deriving DecidableEq, Repr

/-- The JSON value of a task. -/
def Task.toJson (task : Task) : Except WriteError Json :=
  match task.encode? with
  | none => .error .missingAttribute
  | some fields =>
    match (Value.mapping fields).toJson? with
    | none => .error .notWritable
    | some json => .ok json

/-- The text of a task. -/
def Task.write (task : Task) : Except WriteError String :=
  match task.toJson with
  | .error cause => .error cause
  | .ok json => if json.isWritable then .ok json.toText else .error .notWritable

/-- The task of a text. -/
def Task.read (text : String) : Except ReadError Task :=
  match Json.ofText text with
  | .error fault => .error (.text fault)
  | .ok json =>
    match Task.decode json.toValue with
    | .error fault => .error (.mapping fault)
    | .ok task => .ok task

end Crontab
