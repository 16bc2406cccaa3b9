import Crontab.Store.Database
import Crontab.Store.KeyValue
import Crontab.Store.Location
import Crontab.Store.Memory

/-!
# Stores of tasks

A store keeps its records in memory, on a key-value server, or in a database.  The latter two have to
be connected first, and share what they keep with other stores.

* `Store` — the stores;
* `Hosts` — what stores share: the texts of the server, the files of databases, and what can be
  reached at all;
* `Store.init`, `Store.close?` — connecting and disconnecting;
* `Store.perform` — carries out a request.
-/

namespace Crontab

open Time

/-- How a key-value server is reached. -/
structure ServerAddress where
  url : Value
  password : Value
  db : Value

/-- How a database is reached, and whether its statements are logged. -/
structure DatabaseAddress where
  url : Value
  echo : Value

/-- The connection to a database: to one in memory, which is lost with the connection, or to one in a
file. -/
inductive Connection
  | closed
  | memory (table : Table)
  | file (path : String)

/-- A store of tasks, with what its keys start with. -/
inductive Store
  | memory (keyPrefix : Value) (records : Records)
  | redis (keyPrefix : Value) (address : ServerAddress) (connected : Bool)
  | database (keyPrefix : Value) (address : DatabaseAddress) (connection : Connection)

/-- What stores share. -/
structure Hosts where
  /-- The texts on the key-value server. -/
  texts : TextMap := []
  /-- The tables in the files of databases, by path. -/
  files : Fields Table := []
  /-- Whether the client of the key-value server is installed. -/
  hasClient : Bool := true
  /-- Why the key-value server does not answer, if it does not. -/
  refusal : Option String := none
  /-- The directories that are known in advance. -/
  directories : Location.Directories := {}

/-- What cannot be reached. -/
inductive Unavailable
  | client
  | server (address : ServerAddress) (reason : String)
  | database

/-- Why a store cannot be connected. -/
inductive ConnectError
  | unavailable (cause : Unavailable)
  | database (fault : DatabaseFault)

namespace Unavailable

/-- The kind of stores that cannot be used. -/
def kind : Unavailable → StorageKind
  | .client | .server _ _ => .redis
  | .database => .database

/-- The wording of what cannot be reached.  Why a database cannot be is left to its engine. -/
def message : Unavailable → String
  | .client => "Redis client unavailable. Install with: pip install redis"
  | .server address reason => "Redis unavailable at " ++ address.url.plain ++ ": " ++ reason
  | .database => "Database unavailable"

end Unavailable

/-! ## Connecting -/

/-- What the client of a key-value server is given: the password and the number of the database only
if there are any. -/
def ServerAddress.arguments (address : ServerAddress) : Fields Value :=
  [("url", address.url), ("decode_responses", .bool true)] ++
    [("password", address.password), ("db", address.db)].filter (!·.2.isNull)

namespace Hosts

/-- The table in a file, empty if the file is new. -/
def file (hosts : Hosts) (path : String) : Table :=
  (hosts.files.get? path).getD []

/-- The hosts with a given table in a file. -/
def withFile (hosts : Hosts) (path : String) (table : Table) : Hosts :=
  { hosts with files := hosts.files.put path table }

end Hosts

/-- Checks the request to log the statements of a database: a truth value, or a word for more. -/
def checkEcho (echo : Value) : Except DatabaseFault Unit :=
  match echo with
  | .null | .bool _ | .int 0 | .int 1 | .text "debug" => .ok ()
  | .float x => if x.toInt? = some 0 || x.toInt? = some 1 then .ok () else .error .unknownEcho
  | other => .error (if other.canBeKey then .unknownEcho else .badEcho)

/-- The URL of a database.  Only a text can be one. -/
def DatabaseAddress.readUrl (address : DatabaseAddress) : Except DatabaseFault DatabaseUrl :=
  match address.url with
  | .text text => (DatabaseUrl.ofChars text.toList).mapError Location.urlFault
  | _ => .error .unavailable

/-- The connection to a database. -/
def Hosts.connect (hosts : Hosts) (address : DatabaseAddress) :
    Except DatabaseFault Connection := do
  let url ← address.readUrl
  let options ← Location.readUrl hosts.directories url
  checkEcho address.echo
  match ← Location.opened hosts.directories url options with
  | .memory => pure (.memory [])
  | .file path => pure (.file path)

/-- What is reported of a fault of a database: nothing but that it cannot be reached, or the fault
itself. -/
def ConnectError.ofFault : DatabaseFault → ConnectError
  | .unavailable => .unavailable .database
  | fault => .database fault

namespace Store

/-- What the keys of a store start with. -/
def keyPrefix : Store → Value
  | .memory keyPrefix _ | .redis keyPrefix _ _ | .database keyPrefix _ _ => keyPrefix

/-- The kind of a store. -/
def kind : Store → StorageKind
  | .memory _ _ => .memory
  | .redis _ _ _ => .redis
  | .database _ _ _ => .database

/-- Connects a store, and tells what could not be reached.  A client that was created stays even if
the server does not answer. -/
def init (store : Store) (hosts : Hosts) : Except ConnectError Unit × Store :=
  match store with
  | .memory _ _ => (.ok (), store)
  | .redis keyPrefix address connected =>
    if !connected && !hosts.hasClient then (.error (.unavailable .client), store)
    else
      match hosts.refusal with
      | none => (.ok (), .redis keyPrefix address true)
      | some reason => (.error (.unavailable (.server address reason)), .redis keyPrefix address true)
  | .database keyPrefix address _ =>
    match hosts.connect address with
    | .error fault => (.error (.ofFault fault), store)
    | .ok connection => (.ok (), .database keyPrefix address connection)

/-- Disconnects a store; one in memory has no connection. -/
def close? : Store → Option Store
  | .memory _ _ => none
  | .redis keyPrefix address _ => some (.redis keyPrefix address false)
  | .database keyPrefix address _ => some (.database keyPrefix address .closed)

/-! ## Requests -/

/-- Carries out a request at a moment. -/
def perform (store : Store) (hosts : Hosts) (request : Request) (now : Moment) (issuer : Issuer) :
    Outcome (Store × Hosts) :=
  match store with
  | .memory keyPrefix records =>
    ((memoryMedium keyPrefix).perform records request now issuer).map fun records =>
      (.memory keyPrefix records, hosts)
  | .redis keyPrefix _ true =>
    ((keyValueMedium keyPrefix).perform hosts.texts request now issuer).map fun texts =>
      (store, { hosts with texts })
  | .redis _ _ false =>
    ((Medium.closed .redis).perform () request now issuer).map fun _ => (store, hosts)
  | .database keyPrefix address (.memory table) =>
    ((tableMedium keyPrefix).perform table request now issuer).map fun table =>
      (.database keyPrefix address (.memory table), hosts)
  | .database keyPrefix _ (.file path) =>
    ((tableMedium keyPrefix).perform (hosts.file path) request now issuer).map fun table =>
      (store, hosts.withFile path table)
  | .database _ _ .closed =>
    ((Medium.closed .database).perform () request now issuer).map fun _ => (store, hosts)

/-! ## Looking at a table -/

/-- The table behind a store, if it is connected to one. -/
def table? (store : Store) (hosts : Hosts) : Option Table :=
  match store with
  | .database _ _ (.memory table) => some table
  | .database _ _ (.file path) => some (hosts.file path)
  | _ => none

/-- Puts another table behind a store. -/
def withTable (store : Store) (hosts : Hosts) (table : Table) : Store × Hosts :=
  match store with
  | .database keyPrefix address (.memory _) => (.database keyPrefix address (.memory table), hosts)
  | .database _ _ (.file path) => (store, hosts.withFile path table)
  | _ => (store, hosts)

end Store

end Crontab
