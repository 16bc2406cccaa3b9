import Crontab.Task.Basic
import Crontab.Time.Iso
import Crontab.Value.Display

/-!
# Tasks as mappings

A task is stored as a mapping of plain values: moments become ISO texts, an error becomes the name of
its kind and its message, and what there is to execute is left out.  Reading fills what is missing
with defaults and reads naive moments in universal time.

* `Task.encode` — the mapping of a task;
* `Task.decode` — the task of a mapping;
* `DecodeError` — why a mapping is no task.
-/

namespace Crontab

open Time

/-! ## Writing -/

/-- The ISO text of a moment, and `null` for anything else. -/
def encodeMoment : Value → Value
  | .moment moment => .text moment.iso
  | _ => .null

/-- The name of an error's kind: the one it carries, or the name of its own kind. -/
def failureKind (error : Value) : Value :=
  ((error.attribute? "error_type").getD .null).orElse (.text error.kindName)

/-- The kind and the message of an error, and `null` for none. -/
def encodeFailure (error : Value) : Value :=
  if error.isNull then .null
  else .mapping [("type", failureKind error), ("message", .text error.plain)]

/-- The name of a status, and any other value as it is. -/
def encodeStatus : Value → Value
  | .status status => .text status.name
  | value => value

/-- Metadata as a mapping. -/
def TaskMetadata.encode (metadata : TaskMetadata) : Fields Value :=
  [("run_count", metadata.runCount), ("last_run", encodeMoment metadata.lastRun),
   ("next_run", encodeMoment metadata.nextRun), ("last_error", encodeFailure metadata.lastError),
   ("created_at", encodeMoment metadata.createdAt), ("updated_at", encodeMoment metadata.updatedAt)]

/-- The attributes of a value under all of the given names, unless one is missing. -/
def attributesUnder? (value : Value) : List String → Option (Fields Value)
  | [] => some []
  | name :: names => do
    let first ← value.attribute? name
    let rest ← attributesUnder? value names
    pure ((name, first) :: rest)

/-- The options in a place, read from attributes if something else stands there. -/
def Slot.readOptions? : Slot TaskOptions → Option TaskOptions
  | .filled options => some options
  | .other value => (attributesUnder? value TaskOptions.names).map TaskOptions.ofFields

/-- The metadata in a place, read from attributes if something else stands there. -/
def Slot.readMetadata? (slot : Slot TaskMetadata) : Option TaskMetadata :=
  match slot.metadataOrNone with
  | .filled metadata => some metadata
  | .other value => (attributesUnder? value TaskMetadata.names).map TaskMetadata.ofFields

/-- The mapping of a task; none if what stands in the place of its options or its metadata lacks an
attribute. -/
def Task.encode? (task : Task) : Option (Fields Value) := do
  let options ← task.options.readOptions?
  let metadata ← task.metadata.readMetadata?
  pure
    [("id", task.id), ("name", task.name), ("status", encodeStatus task.status),
     ("options", .mapping options.toFields), ("metadata", .mapping metadata.encode)]

/-! ## Reading -/

/-- Why a mapping is no task. -/
inductive DecodeError
  | notAnObject
  | noExpression
  | metadataNotAnObject
  | badMoment (fault : IsoFault)
deriving DecidableEq, Repr

/-- The wording of an error. -/
def DecodeError.message : DecodeError → String
  | .notAnObject => "Task payload must be an object"
  | .noExpression => "Task payload has no cron expression"
  | .metadataNotAnObject => "Task metadata must be an object"
  | .badMoment fault => fault.message

/-- The moment of an ISO text, a naive one being read in universal time; `null` for an empty text and
for anything else. -/
def decodeMoment (value : Value) : Except DecodeError Value :=
  match value.text? with
  | none => .ok .null
  | some text =>
    if text.isEmpty then .ok .null
    else
      match Moment.ofIso text.toList with
      | .ok moment => .ok (.moment (moment.orOnClock .universal))
      | .error fault => .error (.badMoment fault)

/-- The error with a given kind and message; `null` for anything but a mapping. -/
def decodeFailure : Value → Value
  | .mapping fields =>
    .taskFailure (((Fields.get? fields "type").getD .null).orElse (.text "Error"))
      ((Fields.get? fields "message").getD (.text ""))
  | _ => .null

/-- The status of a given name, and any other value as it is. -/
def decodeStatus (value : Value) : Value :=
  match value.text?.bind Status.ofName? with
  | some status => .status status
  | none => value

/-- The metadata of a mapping. -/
def TaskMetadata.decode (fields : Fields Value) : Except DecodeError TaskMetadata := do
  let get (name : String) : Value := (fields.get? name).getD .null
  let lastRun ← decodeMoment (get "last_run")
  let nextRun ← decodeMoment (get "next_run")
  let createdAt ← decodeMoment (get "created_at")
  let updatedAt ← decodeMoment (get "updated_at")
  pure
    { runCount := (fields.get? "run_count").getD (.int 0)
      lastRun := lastRun
      nextRun := nextRun
      lastError := decodeFailure (get "last_error")
      createdAt := createdAt
      updatedAt := updatedAt }

/-- The mapping that holds the metadata; a missing one is empty. -/
def metadataFields : Value → Except DecodeError (Fields Value)
  | .null => .ok []
  | .mapping fields => .ok fields
  | _ => .error .metadataNotAnObject

/-- The options in a mapping, which have to name an expression. -/
def optionsFields (value : Value) : Except DecodeError (Fields Value) :=
  match value with
  | .mapping fields => if Fields.has fields "expression" then .ok fields else .error .noExpression
  | _ => .error .noExpression

/-- The task of a mapping. -/
def Task.decodeFields (fields : Fields Value) : Except DecodeError Task := do
  let get (name : String) : Value := (fields.get? name).getD .null
  let options ← optionsFields (get "options")
  let metadata ← metadataFields (get "metadata")
  let metadata ← TaskMetadata.decode metadata
  pure
    { id := get "id"
      name := (fields.get? "name").getD (.text "")
      status := decodeStatus ((get "status").orElse (.text Status.pending.name))
      execute := .null
      options := .filled (TaskOptions.ofFields options)
      metadata := .filled metadata }

/-- The task of a given value. -/
def Task.decode (value : Value) : Except DecodeError Task :=
  match value with
  | .mapping fields => Task.decodeFields fields
  | _ => .error .notAnObject

end Crontab
