import Crontab.Config.Coercion
import Crontab.Store.Basic

/-!
# Opening stores

A store is opened by options, which name its kind and hold the arguments of every kind, or directly
by the arguments of its kind.

* `Store.ofOptions` — the store of given options, connected;
* `Store.ofServerArguments`, `Store.ofDatabaseArguments` — a store of one kind, connected;
* `OpenError` — why a store cannot be opened.
-/

namespace Crontab

/-- Why a store cannot be opened. -/
inductive OpenError
  | invalidOptions (faults : List Fault)
  | unsupported (kind : Value)
  | connect (cause : ConnectError)
  /-- The options lack an attribute. -/
  | missingAttribute
  /-- An argument is not known, is given twice, or is missing. -/
  | badArguments

/-- The wording of options that are not valid. -/
def invalidOptionsMessage : String := "Invalid storage options"

/-- The wording of a kind of stores that does not exist. -/
def unsupportedMessage (kind : Value) : String :=
  "Storage type " ++ kind.plain ++ " is not supported"

/-- What the keys of a store start with unless something else is given. -/
def defaultPrefix : String := "cron:"

/-- What keys start with, given a value for it that may not count. -/
def prefixOf (given : Value) : Value :=
  given.orElse (.text defaultPrefix)

namespace Store

/-- The store after it is connected. -/
def opened (store : Store) (hosts : Hosts) : Except OpenError Store :=
  match store.init hosts with
  | (.ok _, store) => .ok store
  | (.error cause, _) => .error (.connect cause)

/-! ## By arguments -/

/-- The store on a key-value server with given arguments. -/
def ofServerArguments (arguments : Fields Value) (hosts : Hosts) : Except OpenError Store :=
  if (Fields.names arguments).all ["url", "password", "db", "prefix"].contains then
    let get (name : String) (default : Value) : Value := (arguments.get? name).getD default
    let url := get "url" (.text (StoragePatch.fill {}).redisUrl)
    opened (.redis (prefixOf (get "prefix" .null)) ⟨url, get "password" .null, get "db" .null⟩ false)
      hosts
  else .error .badArguments

/-- The store in a database with given arguments, which have to name a URL. -/
def ofDatabaseArguments (arguments : Fields Value) (hosts : Hosts) : Except OpenError Store :=
  if (Fields.names arguments).all ["url", "echo", "prefix"].contains then
    match arguments.get? "url" with
    | none => .error .badArguments
    | some url =>
      let get (name : String) (default : Value) : Value := (arguments.get? name).getD default
      opened (.database (prefixOf (get "prefix" .null)) ⟨url, get "echo" (.bool false)⟩ .closed) hosts
  else .error .badArguments

/-! ## By options -/

/-- The options as a value with attributes: the defaults if there are none, and converted ones if
they are given as a mapping. -/
def storageValue : Value → Except OpenError Value
  | .null => .ok (.storageOptions {})
  | .mapping fields =>
    match StoragePatch.ofFields fields with
    | .ok patch => .ok (.storageOptions patch)
    | .error faults => .error (.invalidOptions faults)
  | value => .ok value

/-- The attribute of a given name, which has to be there. -/
def attributeOf (options : Value) (name : String) : Except OpenError Value :=
  match options.attribute? name with
  | some value => .ok value
  | none => .error .missingAttribute

/-- The wording of a value that is no client, as none of those that can be given is. -/
def noClientMessage (given : Value) : String :=
  match given.attribute? "ping" with
  | none => Text.quoted given.fullKindName ++ " object has no attribute " ++ Text.quoted "ping"
  | some .action => "object NoneType can\x27t be used in " ++ Text.quoted "await" ++ " expression"
  | some ping => Text.quoted ping.fullKindName ++ " object is not callable"

/-- A store on a server whose client is given; only `null` for no client can be. -/
def withClient (store : Store) (address : ServerAddress) (client : Value) (hosts : Hosts) :
    Except OpenError Store :=
  if client.isNull then opened store hosts
  else .error (.connect (.unavailable (.server address (noClientMessage client))))

/-- The store on a key-value server with given options; the client may be given besides. -/
def ofServerOptions (options : Value) (overrides : Fields Value) (hosts : Hosts) :
    Except OpenError Store := do
  let url ← attributeOf options "redis_url"
  let password ← attributeOf options "redis_password"
  let db ← attributeOf options "redis_db"
  let start ← attributeOf options "prefix"
  if (Fields.names overrides).all ["client"].contains then
    let address : ServerAddress := ⟨url, password, db⟩
    withClient (.redis (prefixOf start) address false) address
      ((overrides.get? "client").getD .null) hosts
  else .error .badArguments

/-- The store in a database with given options; nothing can be given besides. -/
def ofDatabaseOptions (options : Value) (overrides : Fields Value) (hosts : Hosts) :
    Except OpenError Store := do
  let url ← attributeOf options "database_url"
  let echo ← attributeOf options "database_echo"
  let start ← attributeOf options "prefix"
  if overrides.isEmpty then opened (.database (prefixOf start) ⟨url, echo⟩ .closed) hosts
  else .error .badArguments

/-- The store in memory with given options; nothing can be given besides. -/
def ofMemoryOptions (options : Value) (overrides : Fields Value) : Except OpenError Store := do
  let start ← attributeOf options "prefix"
  if overrides.isEmpty then .ok (.memory (prefixOf start) []) else .error .badArguments

/-- The store of given options, connected. -/
def ofOptions (given : Value) (overrides : Fields Value) (hosts : Hosts) :
    Except OpenError Store := do
  let options ← storageValue given
  let kind ← attributeOf options "type"
  match kind.text?.bind StorageKind.ofName? with
  | some .memory => ofMemoryOptions options overrides
  | some .redis => ofServerOptions options overrides hosts
  | some .database => ofDatabaseOptions options overrides hosts
  | none => .error (.unsupported kind)

end Store

end Crontab
