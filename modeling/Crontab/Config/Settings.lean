import Crontab.Config.Configuration

/-!
# Settings from the environment

The program is set up by environment variables whose names start with `CRONKEEPER_`.  Names are
compared without regard to case, and of two variables with the same name the last one counts.

* `Settings` — all settings;
* `Settings.ofEnvironment` — the settings of an environment;
* `Settings.toModuleOptions` — the module options that the settings amount to.
-/

namespace Crontab

/-- All settings. -/
structure Settings where
  storage : StorageOptions
  timezone : TimezoneOptions
  logLevel : String
  logFile : String
deriving DecidableEq, Repr

namespace Settings

/-- The names of the settings. -/
def names : List String :=
  ["storage_type", "storage_prefix", "redis_url", "redis_password", "redis_db", "database_url",
   "database_echo", "timezone", "timezone_validate", "timezone_strict", "log_level", "log_file"]

/-- What the names of all variables start with, in small letters. -/
def variableStart : String := "cronkeeper_"

/-- The small letter of a letter that occurs in the names of settings; the sign of the kelvin is a
capital k. -/
def smallLetter (c : Char) : Char :=
  if c.toNat = 0x212A then 'k' else c.toLower

/-- The text in small letters. -/
def lower (text : String) : String :=
  String.ofList (text.toList.map smallLetter)

/-- The variables of an environment that belong to the settings, by the name of the setting. -/
def givenSettings (environment : List (String × String)) : Fields Value :=
  Fields.ofPairs (environment.filterMap fun (name, value) =>
    (variableStart.toList.isPrefixOf? (lower name).toList).map fun setting =>
      (String.ofList setting, .text value))

/-- The settings of an environment. -/
def ofEnvironment (environment : List (String × String)) : Checked Settings :=
  let fields := givenSettings environment
  let kind := checkField fields "storage_type" coerceKind
  let keyPrefix := checkField fields "storage_prefix" coerceText
  let redisUrl := checkField fields "redis_url" coerceText
  let redisPassword := checkField fields "redis_password" (coerceOptional coerceText)
  let redisDb := checkField fields "redis_db" (coerceOptional coerceInt)
  let databaseUrl := checkField fields "database_url" coerceText
  let databaseEcho := checkField fields "database_echo" coerceBool
  let zone := checkField fields "timezone" coerceText
  let validate := checkField fields "timezone_validate" coerceBool
  let strict := checkField fields "timezone_strict" coerceBool
  let logLevel := checkField fields "log_level" coerceText
  let logFile := checkField fields "log_file" coerceText
  (kind.both (keyPrefix.both (redisUrl.both (redisPassword.both (redisDb.both (databaseUrl.both
    (databaseEcho.both (zone.both (validate.both (strict.both
      (logLevel.both logFile))))))))))).map
        fun (kind, keyPrefix, redisUrl, redisPassword, redisDb, databaseUrl, databaseEcho, zone,
            validate, strict, logLevel, logFile) =>
          { storage :=
              StoragePatch.fill
                { kind, keyPrefix, redisUrl, redisPassword, redisDb, databaseUrl, databaseEcho }
            timezone := TimezonePatch.fill { zone, validate, strict }
            logLevel := logLevel.getD "INFO"
            logFile := logFile.getD "" }

/-- The module options that the settings amount to. -/
def toModuleOptions (settings : Settings) : ModuleOptions :=
  { ModuleOptions.default with storage := settings.storage, timezone := settings.timezone }

/-- The settings as a mapping. -/
def toFields (settings : Settings) : Fields Value :=
  [("storage_type", .text settings.storage.kind.name),
   ("storage_prefix", .text settings.storage.keyPrefix),
   ("redis_url", .text settings.storage.redisUrl),
   ("redis_password", Value.ofText? settings.storage.redisPassword),
   ("redis_db", Value.ofInt? settings.storage.redisDb),
   ("database_url", .text settings.storage.databaseUrl),
   ("database_echo", .bool settings.storage.databaseEcho),
   ("timezone", .text settings.timezone.zone),
   ("timezone_validate", .bool settings.timezone.validate),
   ("timezone_strict", .bool settings.timezone.strict),
   ("log_level", .text settings.logLevel),
   ("log_file", .text settings.logFile)]

end Settings

end Crontab
