import Crontab.Value.Basic

/-!
# Tasks

A task has an identifier, a name, a status, something to execute, options and metadata.  Callers may
put any value into a field, and anything at all in place of the options or the metadata.

* `TaskOptions`, `TaskMetadata`, `Task` — the records;
* `Slot` — a record, or the value that stands in its place;
* `Task.toValue` — a task as a thing with attributes.
-/

namespace Crontab

/-- When and how a task runs. -/
structure TaskOptions where
  expression : Value
  timezone : Value := .null
  maxRetries : Value := .null
  retryDelay : Value := .null
  timeout : Value := .null
  exclusive : Value := .null
  catchUp : Value := .null

/-- What is known about the runs of a task. -/
structure TaskMetadata where
  runCount : Value := .int 0
  lastRun : Value := .null
  nextRun : Value := .null
  lastError : Value := .null
  createdAt : Value := .null
  updatedAt : Value := .null

/-- A record, or the value that stands in its place. -/
inductive Slot (α : Type)
  | filled (record : α)
  | other (value : Value)

/-- A task. -/
structure Task where
  id : Value := .null
  name : Value
  status : Value := .status .pending
  execute : Value := .null
  options : Slot TaskOptions
  metadata : Slot TaskMetadata := .other .null

namespace TaskOptions

/-- The names of the options. -/
def names : List String :=
  ["expression", "timezone", "max_retries", "retry_delay", "timeout", "exclusive", "catch_up"]

/-- The options by name. -/
def toFields (options : TaskOptions) : Fields Value :=
  [("expression", options.expression), ("timezone", options.timezone),
   ("max_retries", options.maxRetries), ("retry_delay", options.retryDelay),
   ("timeout", options.timeout), ("exclusive", options.exclusive), ("catch_up", options.catchUp)]

/-- The options with given values under the names that have one. -/
def replaced (options : TaskOptions) (given : Fields Value) : TaskOptions :=
  { expression := (given.get? "expression").getD options.expression
    timezone := (given.get? "timezone").getD options.timezone
    maxRetries := (given.get? "max_retries").getD options.maxRetries
    retryDelay := (given.get? "retry_delay").getD options.retryDelay
    timeout := (given.get? "timeout").getD options.timeout
    exclusive := (given.get? "exclusive").getD options.exclusive
    catchUp := (given.get? "catch_up").getD options.catchUp }

/-- The options with given values under the names that have one, and `null` under the others. -/
def ofFields (given : Fields Value) : TaskOptions :=
  replaced { expression := .null } given

end TaskOptions

namespace TaskMetadata

/-- The names of the metadata. -/
def names : List String :=
  ["run_count", "last_run", "next_run", "last_error", "created_at", "updated_at"]

/-- The metadata by name. -/
def toFields (metadata : TaskMetadata) : Fields Value :=
  [("run_count", metadata.runCount), ("last_run", metadata.lastRun),
   ("next_run", metadata.nextRun), ("last_error", metadata.lastError),
   ("created_at", metadata.createdAt), ("updated_at", metadata.updatedAt)]

/-- The metadata with given values under the names that have one. -/
def replaced (metadata : TaskMetadata) (given : Fields Value) : TaskMetadata :=
  { runCount := (given.get? "run_count").getD metadata.runCount
    lastRun := (given.get? "last_run").getD metadata.lastRun
    nextRun := (given.get? "next_run").getD metadata.nextRun
    lastError := (given.get? "last_error").getD metadata.lastError
    createdAt := (given.get? "created_at").getD metadata.createdAt
    updatedAt := (given.get? "updated_at").getD metadata.updatedAt }

/-- The metadata with given values under the names that have one, and defaults under the others. -/
def ofFields (given : Fields Value) : TaskMetadata :=
  replaced {} given

end TaskMetadata

/-- The names of the parts of a task. -/
def Task.names : List String :=
  ["id", "name", "status", "execute", "options", "metadata"]

/-- What is in the place of the options, as a value. -/
def Slot.optionsValue : Slot TaskOptions → Value
  | .filled options => .entity .options options.toFields
  | .other value => value

/-- What is in the place of the metadata, as a value. -/
def Slot.metadataValue : Slot TaskMetadata → Value
  | .filled metadata => .entity .metadata metadata.toFields
  | .other value => value

/-- A task as a thing with attributes. -/
def Task.toValue (task : Task) : Value :=
  .entity .task
    [("id", task.id), ("name", task.name), ("status", task.status), ("execute", task.execute),
     ("options", task.options.optionsValue), ("metadata", task.metadata.metadataValue)]

/-- The metadata of a task without any: nothing has run. -/
def Slot.metadataOrNone : Slot TaskMetadata → Slot TaskMetadata
  | .filled metadata => .filled metadata
  | .other value => if value.isTruthy then .other value else .filled {}

end Crontab
