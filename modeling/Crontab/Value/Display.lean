import Crontab.Number.Shortest
import Crontab.Text.Quoted
import Crontab.Time.Iso
import Crontab.Value.Basic

/-!
# Values in messages

Messages show values in two ways: plainly, so that a text stands for itself, and literally, so that
texts are quoted and every kind of value can be told apart.

* `Value.literal` — the literal form;
* `Value.plain` — the plain form;
* `Value.isPrintable` — whether a value has these forms at all;
* `Value.kindName`, `Value.fullKindName` — the name of a value's kind.
-/

namespace Crontab

open Text Time

/-- The bytes of a text as a quoted literal. -/
def bytesLiteral (text : String) : String :=
  let bytes := text.toUTF8.toList.map fun b => b.toNat
  let mark := quoteMark (bytes.map Char.ofNat)
  let escaped (b : Nat) : List Char :=
    if 0x7F ≤ b then backslash :: 'x' :: hexadecimal 2 b else escapeChar mark (Char.ofNat b)
  String.ofList ('b' :: mark :: bytes.flatMap escaped ++ [mark])

/-- The literal form of a clock; nothing for a naive one. -/
def Time.Clock.literal? : Clock → Option String
  | .naive => none
  | .fixed offset (some name) =>
    if offset = 0 ∧ name = "UTC" then some "datetime.timezone.utc"
    else some ("datetime.timezone(" ++ spanText offset ++ ", " ++ quoted name ++ ")")
  | .fixed offset none =>
    if offset = 0 then some "datetime.timezone.utc"
    else some ("datetime.timezone(" ++ spanText offset ++ ")")
  | .zoned zone => some ("zoneinfo.ZoneInfo(key=" ++ quoted zone.key ++ ")")

/-- The literal form of a moment: its numbers, the seconds and the microseconds as far as they are
not zero, its pass and its clock. -/
def momentLiteral (moment : Moment) : String :=
  let wall := moment.wall
  let date := wall.date
  let seconds :=
    if wall.microsecond ≠ 0 then [wall.second, wall.microsecond]
    else if wall.second ≠ 0 then [wall.second] else []
  let numbers := [date.year, date.month, date.day, wall.hour, wall.minute] ++ seconds
  let pass := if moment.pass = .second then ["fold=1"] else []
  let clock :=
    match moment.clock.literal? with
    | some clock => ["tzinfo=" ++ clock]
    | none => []
  "datetime.datetime(" ++ ", ".intercalate (numbers.map toString ++ pass ++ clock) ++ ")"

/-- The plain form of a moment, with a blank between date and time. -/
def momentPlain (moment : Moment) : String :=
  String.ofList (moment.isoChars.map fun c => if c = 'T' then ' ' else c)

/-- Named values with a sign between name and value. -/
def assignments (fields : Fields String) : List String :=
  fields.map fun (name, value) => name ++ "=" ++ value

/-- The name under which a shape is shown. -/
def Shape.name : Shape → String
  | .object => "SimpleNamespace"
  | .task => "Task"
  | .options => "TaskOptions"
  | .metadata => "TaskMetadata"

/-- The attributes with which a shape with defaults is shown, in order. -/
def Shape.shown : Shape → List String
  | .object => []
  | .task => ["name", "execute", "options", "id", "status", "metadata"]
  | .options =>
    ["expression", "timezone", "max_retries", "retry_delay", "timeout", "exclusive", "catch_up"]
  | .metadata => ["run_count", "last_run", "next_run", "last_error", "created_at", "updated_at"]

/-- The literal form of a truth value. -/
def boolLiteral (b : Bool) : String :=
  if b then "True" else "False"

/-- The literal form of a text that may be missing. -/
def textLiteral? : Option String → String
  | some s => quoted s
  | none => "None"

/-- Time zone options with their literal values. -/
def TimezoneOptions.literals (options : TimezoneOptions) : List String :=
  assignments [("type", quoted options.zone), ("validate_timezone", boolLiteral options.validate),
    ("strict", boolLiteral options.strict)]

/-- Storage options with their literal values. -/
def StorageOptions.literals (options : StorageOptions) : List String :=
  assignments [("type", quoted options.kind.name), ("prefix", quoted options.keyPrefix),
    ("redis_url", quoted options.redisUrl), ("redis_password", textLiteral? options.redisPassword),
    ("redis_db", (options.redisDb.map toString).getD "None"),
    ("database_url", quoted options.databaseUrl),
    ("database_echo", boolLiteral options.databaseEcho)]

/-- A name with arguments in brackets. -/
def call (name : String) (arguments : List String) : String :=
  name ++ "(" ++ ", ".intercalate arguments ++ ")"

/-- Module options with their literal values. -/
def ModuleOptions.literals (options : ModuleOptions) : List String :=
  assignments [("server_tasks", boolLiteral options.serverTasks),
    ("tasks_dir", textLiteral? options.tasksDir),
    ("storage", call "StorageOptions" options.storage.literals),
    ("timezone", call "TimezoneOptions" options.timezone.literals)]

/-- Named texts in the given order of names; names that are missing are left out. -/
def pick (names : List String) (fields : Fields String) : Fields String :=
  names.filterMap fun name => (fields.get? name).map (name, ·)

namespace Value

mutual

/-- The literal form of a value. -/
def literal : Value → String
  | .null => "None"
  | .bool b => boolLiteral b
  | .int n => toString n
  | .float x => x.text
  | .text s => quoted s
  | .bytes s => bytesLiteral s
  | .list items => "[" ++ ", ".intercalate (literals items) ++ "]"
  | .tuple [item] => "(" ++ literal item ++ ",)"
  | .tuple items => "(" ++ ", ".intercalate (literals items) ++ ")"
  | .mapping fields =>
    "\x7b" ++ ", ".intercalate
      ((fieldLiterals fields).map fun (name, value) => quoted name ++ ": " ++ value) ++ "\x7d"
  | .moment m => momentLiteral m
  | .status s => "<TaskStatus." ++ s.symbol ++ ": " ++ quoted s.name ++ ">"
  | .action => "<function>"
  | .failure kind message => kind ++ "(" ++ quoted message ++ ")"
  | .taskFailure _ message => "TaskError(" ++ literal message ++ ")"
  | .entity .object given =>
    call "namespace" (assignments ((fieldLiterals given).filter (!·.1.isEmpty)))
  | .entity shape given =>
    call shape.name
      (assignments (pick shape.shown (fieldLiterals given ++ shape.defaults.map fun (name, value) =>
        (name, match value with
          | .int _ => "0"
          | .status s => "<TaskStatus." ++ s.symbol ++ ": " ++ quoted s.name ++ ">"
          | _ => "None"))))
  | .timezoneOptions patch => call "TimezoneOptions" patch.fill.literals
  | .storageOptions patch => call "StorageOptions" patch.fill.literals
  | .moduleOptions patch => call "ModuleOptions" patch.fill.literals

/-- The literal forms of a list of values. -/
def literals : List Value → List String
  | [] => []
  | item :: items => literal item :: literals items

/-- The literal forms of a record of values. -/
def fieldLiterals : List (String × Value) → List (String × String)
  | [] => []
  | (name, value) :: fields => (name, literal value) :: fieldLiterals fields

end

/-- The plain form of a value. -/
def plain : Value → String
  | .text s => s
  | .moment m => momentPlain m
  | .status s => "TaskStatus." ++ s.symbol
  | .failure kind message => if kind = "KeyError" then quoted message else message
  | .taskFailure _ message => plain message
  | .timezoneOptions patch => " ".intercalate patch.fill.literals
  | .storageOptions patch => " ".intercalate patch.fill.literals
  | .moduleOptions patch => " ".intercalate patch.fill.literals
  | value => literal value

/-- Whether an integer has a text: it has not too many digits. -/
def isPrintableInt (n : Int) : Bool :=
  decide ((numeral n.natAbs).length ≤ digitLimit)

mutual

/-- Whether a value has a text: every integer that is shown in it has one. -/
def isPrintable : Value → Bool
  | .int n => isPrintableInt n
  | .list items | .tuple items => arePrintable items
  | .mapping fields => havePrintableValues fields
  | .taskFailure _ message => isPrintable message
  | .entity _ given => havePrintableValues given
  | .storageOptions patch => patch.fill.redisDb.all isPrintableInt
  | .moduleOptions patch => patch.fill.storage.redisDb.all isPrintableInt
  | _ => true

/-- Whether all of some values have a text. -/
def arePrintable : List Value → Bool
  | [] => true
  | item :: items => isPrintable item && arePrintable items

/-- Whether the values of all fields have a text. -/
def havePrintableValues : List (String × Value) → Bool
  | [] => true
  | (_, value) :: fields => isPrintable value && havePrintableValues fields

end

/-- The name of a value's kind. -/
def kindName : Value → String
  | .null => "NoneType"
  | .bool _ => "bool"
  | .int _ => "int"
  | .float _ => "float"
  | .text _ => "str"
  | .bytes _ => "bytes"
  | .list _ => "list"
  | .tuple _ => "tuple"
  | .mapping _ => "dict"
  | .moment _ => "datetime"
  | .status _ => "TaskStatus"
  | .action => "function"
  | .failure kind _ => kind
  | .taskFailure _ _ => "TaskError"
  | .entity shape _ => shape.name
  | .timezoneOptions _ => "TimezoneOptions"
  | .storageOptions _ => "StorageOptions"
  | .moduleOptions _ => "ModuleOptions"

/-- The name of a value's kind with that of the library it comes from, as far as it is shown. -/
def fullKindName : Value → String
  | .moment _ => "datetime.datetime"
  | .entity .object _ => "types.SimpleNamespace"
  | value => value.kindName

end Value

end Crontab
