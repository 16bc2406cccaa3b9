import Crontab.Value.Basic

/-!
# Merging mappings

Overrides are laid over defaults: where both hold a mapping under a name the two are merged in turn,
and otherwise the override counts.  A `null` among the overrides leaves the default in place, but
only as far as the two sides are merged: a mapping that is taken over as a whole keeps its `null`s.

* `mergeFields` — the merged mapping.
-/

namespace Crontab

mutual

/-- What a name holds after an override. -/
def mergeValue (old : Option Value) : Value → Value
  | .mapping fields =>
    match old with
    | some (.mapping defaults) => .mapping (mergeFields defaults fields)
    | _ => .mapping fields
  | value => value

/-- The defaults with overrides laid over them. -/
def mergeFields (defaults : List (String × Value)) :
    List (String × Value) → List (String × Value)
  | [] => defaults
  | (name, value) :: rest =>
    if value.isNull then mergeFields defaults rest
    else mergeFields (Fields.put defaults name (mergeValue (Fields.get? defaults name) value)) rest

end

end Crontab
