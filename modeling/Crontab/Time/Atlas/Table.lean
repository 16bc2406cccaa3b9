import Crontab.Time.Zone

/-!
# Zone tables

A zone is tabulated with its local types numbered, and each change naming the number of the local
type that starts there.
-/

namespace Crontab.Time

/-- The zone of a table: the local type before the first change, the numbered local types, the
changes as pairs of an instant and a number, and the rule afterwards. -/
def Zone.ofTable (key : String) (before : LocalType) (types : List LocalType)
    (changes : List (Int × Nat)) (rule : Rule) : Zone :=
  ⟨key, ⟨before, changes.map fun change => ⟨change.1, types.getD change.2 before⟩⟩, rule⟩

end Crontab.Time
