/-!
# Module options

The options of the scheduler: where tasks come from, where they are stored, and how time zones are
treated.

* `TimezoneOptions`, `StorageOptions`, `ModuleOptions` — complete options;
* `TimezonePatch`, `StoragePatch`, `ModulePatch` — options of which some are given and the others
  are left open;
* `fill` — completes a patch with the default for every option that is left open.
-/

namespace Crontab

/-- The kinds of task stores. -/
inductive StorageKind
  | memory
  | redis
  | database
deriving DecidableEq, Repr

namespace StorageKind

/-- The kinds of task stores. -/
def all : List StorageKind :=
  [.memory, .redis, .database]

/-- The name of a kind. -/
def name : StorageKind → String
  | .memory => "memory"
  | .redis => "redis"
  | .database => "database"

/-- The kind of a given name. -/
def ofName? (name : String) : Option StorageKind :=
  all.find? (·.name = name)

end StorageKind

/-! ## Complete options -/

/-- How time zones are treated: the zone of the module, whether zones are validated, and whether the
module's zone is imposed on every task. -/
structure TimezoneOptions where
  zone : String
  validate : Bool
  strict : Bool
deriving DecidableEq, Repr

/-- Where tasks are stored. -/
structure StorageOptions where
  kind : StorageKind
  keyPrefix : String
  redisUrl : String
  redisPassword : Option String
  redisDb : Option Int
  databaseUrl : String
  databaseEcho : Bool
deriving DecidableEq, Repr

/-- All options. -/
structure ModuleOptions where
  serverTasks : Bool
  tasksDir : Option String
  storage : StorageOptions
  timezone : TimezoneOptions
deriving DecidableEq, Repr

/-! ## Partial options -/

/-- Some of the time zone options. -/
structure TimezonePatch where
  zone : Option String := none
  validate : Option Bool := none
  strict : Option Bool := none
deriving DecidableEq, Repr

/-- Some of the storage options. -/
structure StoragePatch where
  kind : Option StorageKind := none
  keyPrefix : Option String := none
  redisUrl : Option String := none
  redisPassword : Option (Option String) := none
  redisDb : Option (Option Int) := none
  databaseUrl : Option String := none
  databaseEcho : Option Bool := none
deriving DecidableEq, Repr

/-- Some of the module options. -/
structure ModulePatch where
  serverTasks : Option Bool := none
  tasksDir : Option (Option String) := none
  storage : Option StoragePatch := none
  timezone : Option TimezonePatch := none
deriving DecidableEq, Repr

/-- The time zone options with their defaults where they are left open. -/
def TimezonePatch.fill (patch : TimezonePatch) : TimezoneOptions :=
  ⟨patch.zone.getD "UTC", patch.validate.getD true, patch.strict.getD false⟩

/-- The storage options with their defaults where they are left open. -/
def StoragePatch.fill (patch : StoragePatch) : StorageOptions :=
  ⟨patch.kind.getD .memory, patch.keyPrefix.getD "cron:",
   patch.redisUrl.getD "redis://localhost:6379/0", patch.redisPassword.getD none,
   patch.redisDb.getD none, patch.databaseUrl.getD "sqlite:///data/cronkeeper.db",
   patch.databaseEcho.getD false⟩

/-- The module options with their defaults where they are left open. -/
def ModulePatch.fill (patch : ModulePatch) : ModuleOptions :=
  ⟨patch.serverTasks.getD true, patch.tasksDir.getD none, (patch.storage.getD {}).fill,
   (patch.timezone.getD {}).fill⟩

/-- The default options. -/
def ModuleOptions.default : ModuleOptions :=
  ModulePatch.fill {}

end Crontab
