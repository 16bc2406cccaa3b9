import Crontab.Config.Coercion
import Crontab.Config.Merge
import Crontab.Config.Pairs

/-!
# The configuration of a module

A configuration holds the options in force.  Options are replaced as a whole or updated in part;
what is not given comes from the defaults in the first case and stays as it is in the second.  A
change that fails leaves the configuration as it was.

* `Configuration.setOptions`, `Configuration.updateOptions`, `Configuration.reset` — changes;
* `Configuration.accepts` — whether other options are compatible with those in force;
* `ConfigError` — the causes of failure.
-/

namespace Crontab

/-! ## Options as mappings -/

/-- Time zone options as a mapping. -/
def TimezoneOptions.toFields (options : TimezoneOptions) : Fields Value :=
  [("type", .text options.zone), ("validate", .bool options.validate),
   ("strict", .bool options.strict)]

/-- Storage options as a mapping. -/
def StorageOptions.toFields (options : StorageOptions) : Fields Value :=
  options.attributes

/-- Module options as a mapping. -/
def ModuleOptions.toFields (options : ModuleOptions) : Fields Value :=
  [("server_tasks", .bool options.serverTasks), ("tasks_dir", Value.ofText? options.tasksDir),
   ("storage", .mapping options.storage.toFields),
   ("timezone", .mapping options.timezone.toFields)]

/-- A field that is present only if it is given. -/
def givenField {α : Type} (name : String) (toValue : α → Value) : Option α → Fields Value
  | some a => [(name, toValue a)]
  | none => []

/-- The time zone options that are given, as a mapping. -/
def TimezonePatch.toFields (patch : TimezonePatch) : Fields Value :=
  givenField "type" .text patch.zone ++ givenField "validate" .bool patch.validate ++
    givenField "strict" .bool patch.strict

/-- The storage options that are given, as a mapping. -/
def StoragePatch.toFields (patch : StoragePatch) : Fields Value :=
  givenField "type" (fun kind => .text kind.name) patch.kind ++
    givenField "prefix" .text patch.keyPrefix ++ givenField "redis_url" .text patch.redisUrl ++
    givenField "redis_password" Value.ofText? patch.redisPassword ++
    givenField "redis_db" Value.ofInt? patch.redisDb ++
    givenField "database_url" .text patch.databaseUrl ++
    givenField "database_echo" .bool patch.databaseEcho

/-- The module options that are given, as a mapping. -/
def ModulePatch.toFields (patch : ModulePatch) : Fields Value :=
  givenField "server_tasks" .bool patch.serverTasks ++
    givenField "tasks_dir" Value.ofText? patch.tasksDir ++
    givenField "storage" (fun part => .mapping part.toFields) patch.storage ++
    givenField "timezone" (fun part => .mapping part.toFields) patch.timezone

/-! ## Errors -/

/-- Why options are not accepted. -/
inductive ConfigError
  | faults (faults : List Fault)
  /-- The given value is neither a mapping nor a sequence of pairs. -/
  | notAMapping (fault : PairFault)
  /-- The given value has no time zone options. -/
  | missingPart
deriving DecidableEq, Repr

/-- Partial options as a mapping: those that are given of options that were converted before, and
the mapping of a sequence of pairs. -/
def partialFields : Value → Except ConfigError (Fields Value)
  | .moduleOptions patch => .ok patch.toFields
  | .mapping fields => .ok fields
  | value => (fieldsOfPairs value).mapError .notAMapping

/-- The complete options of a mapping. -/
def completeOptions (fields : Fields Value) : Except ConfigError ModuleOptions :=
  match ModulePatch.ofFields fields with
  | .ok patch => .ok patch.fill
  | .error faults => .error (.faults faults)

/-! ## The configuration -/

/-- The options in force. -/
structure Configuration where
  options : ModuleOptions
deriving DecidableEq, Repr

namespace Configuration

/-- The configuration with the default options. -/
def initial : Configuration :=
  ⟨.default⟩

/-- The configuration after a partial set of options is laid over a mapping of all of them. -/
def overlay (base : ModuleOptions) (given : Value) : Except ConfigError Configuration := do
  let fields ← partialFields given
  let options ← completeOptions (mergeFields base.toFields fields)
  pure ⟨options⟩

/-- Replaces the options; what is not given gets its default. -/
def setOptions (_ : Configuration) (given : Value) : Except ConfigError Configuration :=
  overlay .default given

/-- Updates the options; what is not given stays as it is. -/
def updateOptions (config : Configuration) (given : Value) : Except ConfigError Configuration :=
  overlay config.options given

/-- Goes back to the default options. -/
def reset (_ : Configuration) : Configuration :=
  initial

/-- The configuration with given options, or the default ones if none are given. -/
def create (given : Value) : Except ConfigError Configuration :=
  if given.isNull then .ok initial else initial.setOptions given

/-- Whether a zone and a strict flag are compatible with the options in force: there is a zone, and
it is not imposed while another one is in force. -/
def acceptsZone (config : Configuration) (zone strict : Value) : Bool :=
  zone.isTruthy && !(strict.isTruthy && zone.text? ≠ some config.options.timezone.zone)

/-- Whether given options are compatible with those in force.  What a mapping does not give gets its
default. -/
def accepts (config : Configuration) (given : Value) : Except ConfigError Bool :=
  match given with
  | .mapping fields => do
    let options ← completeOptions (mergeFields [] fields)
    pure (config.acceptsZone (.text options.timezone.zone) (.bool options.timezone.strict))
  | given =>
    match given.attribute? "timezone" with
    | none => .error .missingPart
    | some timezone =>
      match timezone.attribute? "type" with
      | none => .error .missingPart
      | some zone =>
        if !zone.isTruthy then .ok false
        else
          match timezone.attribute? "strict" with
          | none => .error .missingPart
          | some strict => .ok (config.acceptsZone zone strict)

/-- The options in force as a value with attributes. -/
def toValue (config : Configuration) : Value :=
  let options := config.options
  .moduleOptions
    { serverTasks := some options.serverTasks
      tasksDir := some options.tasksDir
      storage := some
        { kind := some options.storage.kind
          keyPrefix := some options.storage.keyPrefix
          redisUrl := some options.storage.redisUrl
          redisPassword := some options.storage.redisPassword
          redisDb := some options.storage.redisDb
          databaseUrl := some options.storage.databaseUrl
          databaseEcho := some options.storage.databaseEcho }
      timezone := some
        { zone := some options.timezone.zone
          validate := some options.timezone.validate
          strict := some options.timezone.strict } }

end Configuration

end Crontab
