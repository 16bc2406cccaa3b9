import Crontab.Value.Basic

/-!
# The zone of a task

A task may name its zone, and so may the options of the module, which can also impose theirs on
every task.  The module's options are a mapping or a thing with attributes, and so is their part
about time zones.

* `isStrict`, `isFlexible` — whether the module's zone is imposed, or expressly is not;
* `resolveTimezone` — the zone in force for a task.
-/

namespace Crontab

/-- What the module's options say about imposing their zone; `null` if they say nothing. -/
def strictFlag (options : Value) : Value :=
  let timezone := options.part "timezone"
  if timezone.isTruthy then timezone.part "strict" else .null

/-- Whether the module's options impose their zone on every task. -/
def isStrict (options : Value) : Bool :=
  match strictFlag options with
  | .bool flag => flag
  | _ => false

/-- Whether the module's options expressly leave the zone to the tasks. -/
def isFlexible (options : Value) : Bool :=
  match strictFlag options with
  | .bool flag => !flag
  | _ => false

/-- The zone that the module's options name; `null` if they name none. -/
def moduleZone (options : Value) : Value :=
  (options.part "timezone").part "type"

/-- The zone in force for a task: the module's zone if it is imposed, and otherwise the first of the
task's zone, the module's zone and universal time that is given. -/
def resolveTimezone (taskZone options : Value) : Value :=
  let zone := moduleZone options
  if zone.isTruthy && isStrict options then zone
  else taskZone.orElse (zone.orElse (.text "UTC"))

end Crontab
