/-!
# The status of a task
-/

namespace Crontab

/-- The state of a task's life. -/
inductive Status
  | pending
  | running
  | completed
  | failed
  | paused
deriving DecidableEq, Repr

namespace Status

/-- The states in their usual order. -/
def all : List Status :=
  [.pending, .running, .completed, .failed, .paused]

/-- The name of a state. -/
def name : Status → String
  | .pending => "pending"
  | .running => "running"
  | .completed => "completed"
  | .failed => "failed"
  | .paused => "paused"

/-- The name of a state as a symbol. -/
def symbol : Status → String
  | .pending => "PENDING"
  | .running => "RUNNING"
  | .completed => "COMPLETED"
  | .failed => "FAILED"
  | .paused => "PAUSED"

/-- The state of a given name. -/
def ofName? (name : String) : Option Status :=
  all.find? (·.name = name)

end Status

end Crontab
