import Crontab.Number.Word
import Crontab.Store.Url
import Crontab.Text.SmallLetter

/-!
# Where a database is

A database is named by a URL.  Only the built-in engine can be used: its databases are kept in memory
or in a file, and its URLs name neither a user nor a host.  Of the options of a URL some are for the
engine; if the path is to be read as an identifier of a resource, the others belong to it.

* `Location` — the places;
* `EngineOptions` — the options of a URL for the engine;
* `Location.readUrl` — looks at the directory of the file, the engine and the options of a URL;
* `Location.opened` — the place at which a database is opened;
* `DatabaseFault` — the causes of failure with their wording.
-/

namespace Crontab

open Text Number

-- Powers are those of the core library, wherever this is read.
attribute [local instance (high)] instPowNat

/-- The place of a database. -/
inductive Location
  | memory
  | file (path : String)
deriving DecidableEq, Repr

/-- Why a database cannot be used. -/
inductive DatabaseFault
  /-- There is no such engine, it cannot be reached, or it refuses the database. -/
  | unavailable
  | missingPort
  /-- A port or an option is no integer. -/
  | integer (fault : IntegerFault)
  /-- An option is no floating point number. -/
  | number (word : String)
  /-- An option is no truth value. -/
  | truth (word : String)
  /-- An option that has to be a number has several values. -/
  | severalValues
  /-- An option is an integer of more than 32 bits. -/
  | tooLarge
  /-- The isolation of transactions has several values. -/
  | isolation
  /-- The path of a directory holds a NUL character. -/
  | nulCharacter
  /-- The URL names more than one driver. -/
  | severalDrivers
  /-- The driver is something else in the engine. -/
  | notADriver
  /-- There is no path to be read as an identifier. -/
  | missingPath
  /-- The request to log statements is none of the known ones. -/
  | unknownEcho
  /-- The request to log statements is of a kind that can be none. -/
  | badEcho
deriving DecidableEq, Repr

/-- The wording of a fault that has one of its own. -/
def DatabaseFault.message? : DatabaseFault → Option String
  | .integer fault => some fault.message
  | .number word => some ("could not convert string to float: " ++ quoted word)
  | .truth word => some ("String is not true/false: " ++ quoted word)
  | .isolation =>
    some "isolation_level string must be '', 'DEFERRED', 'IMMEDIATE', or 'EXCLUSIVE'"
  | .nulCharacter => some "embedded null byte"
  | .severalDrivers => some "too many values to unpack (expected 2)"
  | _ => none

/-! ## Paths -/

namespace Location

/-- The components of a path in normal form, in reverse, after those of another path: empty ones and
single dots are left out, and two dots take back what is in front of them. -/
def normalize (absolute : Bool) (front : List String) : List String → List String
  | [] => front
  | component :: rest =>
    if component.isEmpty || component = "." then normalize absolute front rest
    else if component = ".." then
      match front with
      | [] => normalize absolute (if absolute then [] else [".."]) rest
      | last :: others =>
        normalize absolute (if last = ".." then ".." :: front else others) rest
    else normalize absolute (component :: front) rest

/-- The components of a path. -/
def components (path : String) : List String :=
  (path.toList.splitOn '/').map String.ofList

/-- The greatest number of octets of a component. -/
def componentLimit : Nat := 255

/-- The greatest number of octets of the path of a database. -/
def pathLimit : Nat := 504

/-- Whether none of some components is too long. -/
def areShort (names : List String) : Bool :=
  names.all fun name => decide (name.utf8ByteSize ≤ componentLimit)

/-- What is known of directories in advance. -/
structure Directories where
  /-- The paths of those in which nothing can be created, each with a slash at its end. -/
  closed : List String := []
  /-- The paths of those that are there in any case. -/
  present : List String := []

/-- Whether the directories of a path are there or can be created. -/
def hasDirectories (directories : Directories) (path : String) : Bool :=
  areShort (components path).dropLast &&
    !directories.closed.any fun directory => path.startsWith directory

/-- Whether a path names the directory it starts from or one of those that lead to it. -/
def namesDirectory (absolute : Bool) (names : List String) : Bool :=
  names.isEmpty || (List.range names.length).any fun n =>
    normalize absolute [] (names.take n) = normalize absolute [] names

/-- The components of a path that are neither empty nor single dots. -/
def properComponents (path : String) : List String :=
  (components path).filter fun name => !name.isEmpty && name ≠ "."

/-- Whether a file of a given path can be created: the path must not name a directory, and must not
be too long. -/
def isCreatable (directories : Directories) (path : String) : Bool :=
  let absolute := path.startsWith "/"
  let names := normalize absolute [] (components path)
  let whole := (if absolute then "/" else "") ++ "/".intercalate names.reverse
  names.head? ≠ some ".." && !namesDirectory absolute (properComponents path) && areShort names &&
    decide (whole.utf8ByteSize ≤ pathLimit) && hasDirectories directories whole

/-- Whether a character is the NUL character. -/
def isNul (c : Char) : Bool := c.toNat = 0

/-- A path up to its first NUL character, which must not stand in its directories. -/
def upToNul (path : String) : Except DatabaseFault String :=
  let directories := (path.toList.reverse.dropWhile (· ≠ '/')).reverse
  if directories.any isNul then .error .nulCharacter
  else .ok (String.ofList (path.toList.takeWhile (!isNul ·)))

/-! ## Engines -/

/-- The name of the built-in engine. -/
def engine : String := "sqlite"

/-- The drivers of the built-in engine that can be used. -/
def drivers : List String := ["pysqlite", "base"]

/-- The other names that belong to the built-in engine without being drivers. -/
def otherNames : List String :=
  ["BLOB", "BOOLEAN", "CHAR", "DATE", "DATETIME", "DECIMAL", "FLOAT", "INTEGER", "JSON", "NUMERIC",
   "REAL", "SMALLINT", "TEXT", "TIME", "TIMESTAMP", "VARCHAR", "Insert", "insert", "dialect", "dml",
   "json", "__all__", "__builtins__", "__cached__", "__doc__", "__file__", "__loader__", "__name__",
   "__package__", "__path__", "__spec__"]

/-- Checks whether the engine of a URL can be used, without a plug-in. -/
def chooseEngine (url : DatabaseUrl) : Except DatabaseFault Unit :=
  if url.options.has "plugin" then .error .unavailable
  else
    match url.drivers with
    | [] => if url.dialect = engine then .ok () else .error .unavailable
    | [driver] =>
      if url.dialect ≠ engine then .error .unavailable
      else if drivers.contains driver then .ok ()
      else if otherNames.contains driver then .error .notADriver
      else .error .unavailable
    | _ => .error .severalDrivers

end Location

/-! ## Options -/

/-- The words for a truth value, in small letters. -/
def truthWords : List (String × Bool) :=
  [("true", true), ("yes", true), ("on", true), ("y", true), ("t", true), ("1", true),
   ("false", false), ("no", false), ("off", false), ("n", false), ("f", false), ("0", false)]

/-- The truth value of an option; several values count as true. -/
def readTruth : List String → Except DatabaseFault Bool
  | [given] =>
    let word := String.ofList (inSmallLetters (strip given.toList))
    match Fields.get? truthWords word with
    | some flag => .ok flag
    | none => .error (.truth word)
  | _ => .ok true

/-- Checks whether an option is a floating point number. -/
def checkNumber : List String → Except DatabaseFault Unit
  | [word] => if isNumberWord word.toList then .ok () else .error (.number word)
  | _ => .error .severalValues

/-- The integer of an option. -/
def readIntegerOption : List String → Except DatabaseFault Int
  | [word] => (readInteger word.toList).mapError .integer
  | _ => .error .severalValues

/-- The options for the engine: whether the path is an identifier, two integers, and whether the
isolation of transactions has several values. -/
structure EngineOptions where
  identifier : Bool := false
  detection : Int := 0
  cached : Int := 0
  severalIsolations : Bool := false
deriving DecidableEq, Repr

namespace EngineOptions

/-- The names of the options for the engine. -/
def names : List String :=
  ["uri", "timeout", "isolation_level", "detect_types", "check_same_thread", "cached_statements"]

/-- The option of a given name, read if it is given. -/
def read {α : Type} (url : DatabaseUrl) (name : String) (default : α)
    (reader : List String → Except DatabaseFault α) : Except DatabaseFault α :=
  match url.options.get? name with
  | some values => reader values
  | none => .ok default

/-- The options of a URL that belong to an identifier, in the order of their names. -/
def others (url : DatabaseUrl) : Fields (List String) :=
  (url.options.filter fun option => !names.contains option.1).mergeSort fun a b => !decide (b.1 < a.1)

/-- The options of a URL for the engine, of which the first fault counts.  An identifier with options
of its own needs a path. -/
def ofUrl (url : DatabaseUrl) : Except DatabaseFault EngineOptions := do
  let identifier ← read url "uri" false readTruth
  read url "timeout" () checkNumber
  let detection ← read url "detect_types" 0 readIntegerOption
  let _ ← read url "check_same_thread" false readTruth
  let cached ← read url "cached_statements" 0 readIntegerOption
  let severalIsolations := ((url.options.get? "isolation_level").getD []).length > 1
  if identifier && url.database.isNone && !(others url).isEmpty then .error .missingPath
  else .ok { identifier, detection, cached, severalIsolations }

/-- Whether an integer has more than 32 bits. -/
def isTooLarge (n : Int) : Bool :=
  decide (n < -(2 ^ (31 : Nat))) || decide (2 ^ (31 : Nat) ≤ n)

/-- Checks the options as far as the engine itself does. -/
def check (options : EngineOptions) : Except DatabaseFault Unit :=
  if isTooLarge options.detection then .error .tooLarge
  else if options.severalIsolations then .error .isolation
  else if isTooLarge options.cached then .error .tooLarge
  else .ok ()

end EngineOptions

namespace Location

/-! ## Identifiers -/

/-- How a database is opened. -/
inductive OpenMode
  | create
  | existing
  | readOnly
  | memory
deriving DecidableEq, Repr

namespace OpenMode

/-- The mode that a word stands for. -/
def ofWord? : String → Option OpenMode
  | "rwc" => some .create
  | "rw" => some .existing
  | "ro" => some .readOnly
  | "memory" => some .memory
  | _ => none

/-- Whether a mode may be followed by another one, which must not ask for more. -/
def permits : (mode other : OpenMode) → Bool
  | .existing, .create | .readOnly, .create | .readOnly, .existing => false
  | _, _ => true

end OpenMode

/-- What the options of an identifier say about the access to its database. -/
structure Access where
  mode : OpenMode := .create
  /-- The name of what keeps the files. -/
  system : String := "unix"
deriving DecidableEq, Repr

/-- The names of what keeps files. -/
def fileSystems : List String := ["unix", "unix-none", "unix-dotfile", "unix-excl"]

/-- The name of what keeps databases in memory in place of files. -/
def memorySystem : String := "memdb"

/-- The words that say yes, in small letters. -/
def affirmations : List String := ["on", "yes", "true"]

/-- Whether a word says yes; a number does if its last eight bits are not all zero. -/
def affirms (word : String) : Bool :=
  let digits := word.toList.takeWhile Char.isDigit
  if digits.isEmpty then affirmations.contains (String.ofList (word.toList.map Char.toLower))
  else numeralValue digits % 256 ≠ 0

/-- The text of a part of an identifier, whose end may be an escaped NUL character. -/
def identifierPart (part : List Char) : String :=
  String.ofList ((Percent.unescape part).takeWhile (!isNul ·))

/-- The options in the text behind a question mark.  Those without a name do not count. -/
def identifierOptions (text : List Char) : List (String × String) :=
  ((text.splitOn '&').map fun option =>
    (identifierPart (option.takeWhile (· ≠ '=')),
      identifierPart ((option.dropWhile (· ≠ '=')).drop 1))).filter (!·.1.isEmpty)

/-- The access that another option asks for. -/
def Access.read (access : Access) (option : String × String) : Except DatabaseFault Access :=
  match option with
  | ("mode", word) =>
    match OpenMode.ofWord? word with
    | some mode =>
      if access.mode.permits mode then .ok { access with mode } else .error .unavailable
    | none => .error .unavailable
  | ("cache", word) =>
    if word = "shared" || word = "private" then .ok access else .error .unavailable
  | ("vfs", word) => .ok { access with system := word }
  | _ => .ok access

/-- The path of an identifier behind an authority, which can only be the local host. -/
def behindAuthority (text : List Char) : Except DatabaseFault (List Char) :=
  match text with
  | '/' :: '/' :: rest =>
    let authority := rest.takeWhile (· ≠ '/')
    if authority.isEmpty || authority = "localhost".toList then .ok (rest.drop authority.length)
    else .error .unavailable
  | _ => .ok text

/-- Whether the directory of a path is there although none is created: it is the current one, one
above it, or one of those that are there in any case. -/
def standsByItself (directories : Directories) (path : String) : Bool :=
  let absolute := path.startsWith "/"
  let parents := (normalize absolute [] (components path)).drop 1
  if absolute then directories.present.contains ("/" ++ "/".intercalate parents.reverse)
  else parents.all (· = "..")

/-- Whether the options of an identifier forbid to create its file. -/
def forbidsCreation (options : List (String × String)) : Bool :=
  Fields.has options "modeof" || ((Fields.get? options "immutable").map affirms).getD false

/-- The place of a path that is accessed with given options. -/
def accessed (directories : Directories) (path : String) (options : List (String × String)) :
    Except DatabaseFault Location := do
  let access ← options.foldlM Access.read {}
  if !(memorySystem :: fileSystems).contains access.system then .error .unavailable
  else if access.mode = .readOnly then .error .unavailable
  else if access.mode = .memory || path.isEmpty || path = ":memory:" then .ok .memory
  else if access.system = memorySystem then .ok .memory
  else if access.mode = .create && !forbidsCreation options && standsByItself directories path then
    .ok (.file path)
  else .error .unavailable

/-- The place that an identifier names.  What stands behind a number sign does not matter. -/
def ofIdentifier (directories : Directories) (text : List Char) :
    Except DatabaseFault Location := do
  let text := (← behindAuthority text).takeWhile (· ≠ '#')
  accessed directories (identifierPart (text.takeWhile (· ≠ '?')))
    (identifierOptions ((text.dropWhile (· ≠ '?')).drop 1))

/-- The values of an option as one text. -/
def identifierValue : List String → String
  | [value] => value
  | values => "(" ++ ", ".intercalate (values.map quoted) ++ ")"

/-- The text of options behind a path. -/
def optionsText (options : Fields (List String)) : String :=
  if options.isEmpty then ""
  else
    "?" ++ "&".intercalate (options.map fun option => option.1 ++ "=" ++ identifierValue option.2)

/-- Whether the directory of a path with options behind it is there: the current one, or one that was
created for the path alone. -/
def staysInDirectory (path behind : String) : Bool :=
  let last := (components path).getLast?.getD ""
  !behind.toList.contains '/' && (!path.toList.contains '/' || (!last.isEmpty && last ≠ "."))

/-- The place of a path that may be an identifier, with options behind it.  If it is none, they belong
to the name of the file. -/
def ofIdentifierPath (directories : Directories) (path behind : String) :
    Except DatabaseFault Location :=
  if (path ++ behind).toList.any isNul then .error .nulCharacter
  else
    match "file:".toList.isPrefixOf? (path ++ behind).toList with
    | some rest => ofIdentifier directories rest
    | none =>
      if behind.isEmpty then
        .ok (if path.isEmpty || path = ":memory:" then .memory else .file path)
      else if staysInDirectory path behind then .ok (.file (path ++ behind))
      else .error .unavailable

/-! ## Places of URLs -/

/-- The place of a path, of which a NUL character is the end. -/
def ofPath (path : String) : Except DatabaseFault Location :=
  if path.isEmpty || path = ":memory:" then .ok .memory else (upToNul path).map .file

/-- Prepares the directory of the file that the URL of the built-in engine names. -/
def prepare (directories : Directories) (url : DatabaseUrl) : Except DatabaseFault Unit := do
  if url.dialect = engine then
    match ← ofPath (url.database.getD "") with
    | .memory => .ok ()
    | .file path => if hasDirectories directories path then .ok () else .error .unavailable
  else .ok ()

/-- The place that a URL with given options names. -/
def place (directories : Directories) (url : DatabaseUrl) (options : EngineOptions) :
    Except DatabaseFault Location :=
  if options.identifier then
    match url.database with
    | none => .error .missingPath
    | some path => ofIdentifierPath directories path (optionsText (EngineOptions.others url))
  else ofPath (url.database.getD "")

/-- What is wrong with a text that is no URL. -/
def urlFault : UrlFault → DatabaseFault
  | .malformed => .unavailable
  | .missingPort => .missingPort
  | .port fault => .integer fault

/-- The engine options of a URL of the built-in engine, which names neither a user nor a host. -/
def readUrl (directories : Directories) (url : DatabaseUrl) :
    Except DatabaseFault EngineOptions := do
  prepare directories url
  chooseEngine url
  if !url.user.isEmpty || !url.password.isEmpty || !url.host.isEmpty || url.port ≠ 0 then
    .error .unavailable
  else EngineOptions.ofUrl url

/-- The place at which a database is opened, if the engine can create its file. -/
def opened (directories : Directories) (url : DatabaseUrl) (options : EngineOptions) :
    Except DatabaseFault Location := do
  options.check
  match ← place directories url options with
  | .memory => .ok .memory
  | .file path => if isCreatable directories path then .ok (.file path) else .error .unavailable

end Location

end Crontab
