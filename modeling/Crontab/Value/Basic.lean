import Crontab.Config.Options
import Crontab.Json.Basic
import Crontab.Task.Status
import Crontab.Time.Moment

/-!
# Values

Tasks, options and arguments come from callers who may put anything anywhere, and what a rule says
about a misplaced value is part of the rule.  `Value` is the type of everything that can turn up.

* `Value` — the values;
* `Value.isTruthy` — whether a value counts as present;
* `Value.text?`, `Value.isNumber`, … — the kinds of values that rules ask for;
* `Value.attribute?`, `Value.part` — access to the parts of an entity or a mapping by name;
* `Json.toValue`, `Value.toJson?` — the values that a JSON text can hold.
-/

namespace Crontab

/-- The kinds of things that have attributes. -/
inductive Shape
  | object
  | task
  | options
  | metadata
deriving DecidableEq, Repr

/-- Anything that can be passed as an argument or stored in a field. -/
inductive Value
  | null
  | bool (value : Bool)
  | int (value : Int)
  | float (value : Number.Binary64)
  | text (value : String)
  | bytes (value : String)
  | list (items : List Value)
  | tuple (items : List Value)
  | mapping (fields : List (String × Value))
  | moment (value : Time.Moment)
  | status (value : Status)
  /-- Something that can be called. -/
  | action
  /-- An error of a general kind. -/
  | failure (kind message : String)
  /-- An error of a task, with the name of its kind and its message. -/
  | taskFailure (kind message : Value)
  /-- A thing with attributes; attributes that are not listed have their default, if any. -/
  | entity (shape : Shape) (attributes : List (String × Value))
  | timezoneOptions (patch : TimezonePatch)
  | storageOptions (patch : StoragePatch)
  | moduleOptions (patch : ModulePatch)

namespace Value

instance : Inhabited Value := ⟨.null⟩

/-- Whether the value is `null`. -/
def isNull : Value → Bool
  | .null => true
  | _ => false

/-- Whether a value counts as present: not `null`, false, zero or empty. -/
def isTruthy : Value → Bool
  | .null => false
  | .bool b => b
  | .int n => n != 0
  | .float x => !x.isZero
  | .text s | .bytes s => !s.isEmpty
  | .list items | .tuple items => !items.isEmpty
  | .mapping fields => !fields.isEmpty
  | _ => true

/-- The value itself if it counts as present, and another one otherwise. -/
def orElse (value other : Value) : Value :=
  if value.isTruthy then value else other

/-- The characters of a value that is a text; a status is the text of its name. -/
def text? : Value → Option String
  | .text s => some s
  | .status s => some s.name
  | _ => none

/-- Whether a value is a number; truth values are none. -/
def isNumber : Value → Bool
  | .int _ | .float _ => true
  | _ => false

/-- Whether a value is a number greater than a bound. -/
def exceeds (value : Value) (bound : Int) : Bool :=
  match value with
  | .int n => decide (bound < n)
  | .float x => x.exceeds bound
  | _ => false

/-- Whether a value is an integer that is not less than a bound. -/
def isIntegerFrom (value : Value) (bound : Int) : Bool :=
  match value with
  | .int n => decide (bound ≤ n)
  | _ => false

/-- Whether a value is a truth value. -/
def isBool : Value → Bool
  | .bool _ => true
  | _ => false

/-- Whether a value is a moment. -/
def isMoment : Value → Bool
  | .moment _ => true
  | _ => false

/-- Whether a value can be called. -/
def isCallable : Value → Bool
  | .action => true
  | _ => false

/-- Whether a value is an error. -/
def isFailure : Value → Bool
  | .failure _ _ | .taskFailure _ _ => true
  | _ => false

mutual

/-- Whether a value can be a key: nothing that can change can, nor what holds such a thing. -/
def canBeKey : Value → Bool
  | .list _ | .mapping _ | .entity _ _ => false
  | .timezoneOptions _ | .storageOptions _ | .moduleOptions _ => false
  | .tuple items => canAllBeKeys items
  | _ => true

/-- Whether all of some values can be keys. -/
def canAllBeKeys : List Value → Bool
  | [] => true
  | item :: items => canBeKey item && canAllBeKeys items

end

/-- The fields of a mapping. -/
def fields? : Value → Option (Fields Value)
  | .mapping fields => some fields
  | _ => none

/-- The value of an optional text. -/
def ofText? : Option String → Value
  | some s => .text s
  | none => .null

/-- The value of an optional integer. -/
def ofInt? : Option Int → Value
  | some n => .int n
  | none => .null

end Value

/-- The attributes that a thing of some shape has without being given them. -/
def Shape.defaults : Shape → Fields Value
  | .object => []
  | .task => [("id", .null), ("status", .status .pending), ("metadata", .null)]
  | .options =>
    [("timezone", .null), ("max_retries", .null), ("retry_delay", .null), ("timeout", .null),
     ("exclusive", .null), ("catch_up", .null)]
  | .metadata =>
    [("run_count", .int 0), ("last_run", .null), ("next_run", .null), ("last_error", .null),
     ("created_at", .null), ("updated_at", .null)]

/-- The attributes of time zone options. -/
def TimezoneOptions.attributes (options : TimezoneOptions) : Fields Value :=
  [("type", .text options.zone), ("validate_timezone", .bool options.validate),
   ("strict", .bool options.strict)]

/-- The attributes of storage options. -/
def StorageOptions.attributes (options : StorageOptions) : Fields Value :=
  [("type", .text options.kind.name), ("prefix", .text options.keyPrefix),
   ("redis_url", .text options.redisUrl), ("redis_password", Value.ofText? options.redisPassword),
   ("redis_db", Value.ofInt? options.redisDb), ("database_url", .text options.databaseUrl),
   ("database_echo", .bool options.databaseEcho)]

/-- The attributes of module options, the nested ones as given. -/
def ModulePatch.attributes (patch : ModulePatch) : Fields Value :=
  [("server_tasks", .bool patch.fill.serverTasks),
   ("tasks_dir", Value.ofText? patch.fill.tasksDir),
   ("storage", .storageOptions (patch.storage.getD {})),
   ("timezone", .timezoneOptions (patch.timezone.getD {}))]

namespace Value

/-- All attributes of a value. -/
def attributes : Value → Fields Value
  | .entity shape given => given ++ shape.defaults
  | .timezoneOptions patch => patch.fill.attributes
  | .storageOptions patch => patch.fill.attributes
  | .moduleOptions patch => patch.attributes
  | .taskFailure kind _ => [("error_type", kind)]
  | .status given => [("name", .text given.symbol), ("value", .text given.name)]
  | _ => []

/-- The attribute of a given name. -/
def attribute? (value : Value) (name : String) : Option Value :=
  value.attributes.get? name

/-- The part of a given name: the field of a mapping or the attribute of anything else, and `null`
if there is none. -/
def part (value : Value) (name : String) : Value :=
  match value with
  | .mapping fields => (Fields.get? fields name).getD .null
  | other => (other.attribute? name).getD .null

end Value

/-! ## Values of JSON texts -/

mutual

/-- The value that a JSON value is. -/
def Json.toValue : Json → Value
  | .null => .null
  | .bool b => .bool b
  | .int n => .int n
  | .float x => .float x
  | .text s => .text s
  | .list items => .list (Json.listToValues items)
  | .object fields => .mapping (Json.fieldsToValues fields)

/-- The values that the items of a list are. -/
def Json.listToValues : List Json → List Value
  | [] => []
  | item :: items => item.toValue :: Json.listToValues items

/-- The values that the fields of an object are. -/
def Json.fieldsToValues : List (String × Json) → List (String × Value)
  | [] => []
  | (name, value) :: fields => (name, value.toValue) :: Json.fieldsToValues fields

end

mutual

/-- The JSON value of a value that has one; a tuple becomes a list and a status a text. -/
def Value.toJson? : Value → Option Json
  | .null => some .null
  | .bool b => some (.bool b)
  | .int n => some (.int n)
  | .float x => some (.float x)
  | .text s => some (.text s)
  | .status s => some (.text s.name)
  | .list items => (Value.listToJson? items).map .list
  | .tuple items => (Value.listToJson? items).map .list
  | .mapping fields => (Value.fieldsToJson? fields).map .object
  | _ => none

/-- The JSON values of a list of values that all have one. -/
def Value.listToJson? : List Value → Option (List Json)
  | [] => some []
  | item :: items => do
    let item ← item.toJson?
    let items ← Value.listToJson? items
    pure (item :: items)

/-- The JSON values of a record of values that all have one. -/
def Value.fieldsToJson? : List (String × Value) → Option (List (String × Json))
  | [] => some []
  | (name, value) :: fields => do
    let value ← value.toJson?
    let fields ← Value.fieldsToJson? fields
    pure ((name, value) :: fields)

end

end Crontab
