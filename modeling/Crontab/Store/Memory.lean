import Crontab.Store.Medium

/-!
# Records in memory

The records themselves are kept, by key and in the order in which the keys were first used.

* `memoryMedium` — the medium of a store in memory.
-/

namespace Crontab

/-- Records by key, in the order in which the keys were first used. -/
abbrev Records := Fields Task

/-- Keeps records in memory, under the given start of their keys. -/
def memoryMedium (keyPrefix : Value) : Medium Records where
  find records id := .ok (Fields.get? records (storeKey keyPrefix id))
  list records := .ok (records.map (·.2))
  save records task := .ok (Fields.put records (storeKey keyPrefix task.id) task)
  remove records id :=
    let key := storeKey keyPrefix id
    .ok (Fields.has records key, Fields.erase records key)
  clear _ := .ok []

end Crontab
