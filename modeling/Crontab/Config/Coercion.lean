import Crontab.Text.Integer
import Crontab.Value.Basic

/-!
# Options from given values

Options arrive as mappings of arbitrary values.  Each option has a type, and a value of a near enough
kind is converted to it: a truth value may be written as a number or a word, an integer as a text.

* `coerceBool`, `coerceInt`, `coerceText`, `coerceKind` — the conversions;
* `OptionFault`, `Fault` — what is wrong with a value, and where;
* `TimezonePatch.ofValue`, `StoragePatch.ofValue`, `ModulePatch.ofValue` — options from mappings.

All faults of a mapping are reported, in the order in which the options are declared.  Unknown names
are ignored, and a nested part may be given as options that were already converted.
-/

namespace Crontab

open Text Number

-- Powers are those of the core library, wherever this is read.
attribute [local instance (high)] instPowNat

/-! ## Faults -/

/-- What is wrong with a value. -/
inductive OptionFault
  | boolType
  | boolParsing
  | intType
  | intParsing
  | intParsingSize
  | intFromFloat
  | finiteNumber
  | stringType
  | literal
  | modelType
deriving DecidableEq, Repr

/-- The name of a fault. -/
def OptionFault.name : OptionFault → String
  | .boolType => "bool_type"
  | .boolParsing => "bool_parsing"
  | .intType => "int_type"
  | .intParsing => "int_parsing"
  | .intParsingSize => "int_parsing_size"
  | .intFromFloat => "int_from_float"
  | .finiteNumber => "finite_number"
  | .stringType => "string_type"
  | .literal => "literal_error"
  | .modelType => "model_type"

/-- A fault and the names that lead to the value. -/
structure Fault where
  fault : OptionFault
  path : List String
deriving DecidableEq, Repr

/-- A converted part, or all faults found in it. -/
abbrev Checked (α : Type) := Except (List Fault) α

/-- Combines two parts; the faults of the first one come first. -/
def Checked.both {α β : Type} : Checked α → Checked β → Checked (α × β)
  | .ok a, .ok b => .ok (a, b)
  | .ok _, .error faults => .error faults
  | .error faults, .ok _ => .error faults
  | .error faults, .error more => .error (faults ++ more)

/-- A part under a name. -/
def Checked.under {α : Type} (name : String) : Checked α → Checked α
  | .ok a => .ok a
  | .error faults => .error (faults.map fun fault => { fault with path := name :: fault.path })

/-! ## Conversions -/

/-- The words for a truth value, in small letters. -/
def boolWords : List (String × Bool) :=
  [("0", false), ("off", false), ("f", false), ("false", false), ("n", false), ("no", false),
   ("1", true), ("on", true), ("t", true), ("true", true), ("y", true), ("yes", true)]

/-- The characters of a value that is a text or the octets of one. -/
def characters? : Value → Option String
  | .bytes s => some s
  | value => value.text?

/-- Whether an integer fits into 64 bits. -/
def isWord (n : Int) : Bool :=
  decide (-(2 ^ (63 : Nat)) ≤ n) && decide (n < 2 ^ (63 : Nat))

/-- The truth value of an integer. -/
def boolOfInt (n : Int) : Except OptionFault Bool :=
  if !isWord n then .error .boolType
  else if n = 0 then .ok false
  else if n = 1 then .ok true
  else .error .boolParsing

/-- Whether a whole floating point number is counted among the integers of 64 bits, to which the
least one of them does not belong. -/
def isWholeWord (n : Int) : Bool :=
  isWord n && decide (n ≠ -(2 ^ (63 : Nat)))

/-- Converts a value to a truth value. -/
def coerceBool (value : Value) : Except OptionFault Bool :=
  match value with
  | .bool b => .ok b
  | .int n => boolOfInt n
  | .float x =>
    match x.toInt? with
    | some n => if isWholeWord n then boolOfInt n else .error .boolType
    | none => .error .boolType
  | value =>
    match characters? value with
    | some word =>
      match Fields.get? boolWords (String.ofList (word.toList.map Char.toLower)) with
      | some b => .ok b
      | none => .error .boolParsing
    | none => .error .boolType

/-! ## Integers in texts -/

/-- Whether a character can follow leading zeros, or stand in their place. -/
def isLeadingChar (c : Char) : Bool :=
  c = '-' || (c.isDigit && c ≠ '0')

/-- A text without the zeros and underscores that it goes on with behind `last`.  One character is
left in front of a point and of the end. -/
def skipZeros? (last : Char) : List Char → Option (List Char)
  | [] => some [last]
  | c :: rest =>
    if c = '0' || c = '_' then skipZeros? c rest
    else if isLeadingChar c then some (c :: rest)
    else if c = '.' then some (last :: c :: rest)
    else none

/-- A text without leading zeros, if it starts like an integer. -/
def withoutLeadingZeros? : List Char → Option (List Char)
  | [] => none
  | c :: rest =>
    if c = '0' then skipZeros? c rest
    else if isLeadingChar c then some (c :: rest)
    else none

/-- A text without a fraction of zeros. -/
def withoutZeroFraction (text : List Char) : List Char :=
  if ((text.dropWhile (· ≠ '.')).drop 1).all (· = '0') then text.takeWhile (· ≠ '.') else text

/-- A text without its underscores if each of them stands alone between other characters. -/
def withoutUnderscores (text : List Char) : List Char :=
  if (text.splitOn '_').any List.isEmpty then text else text.filter (· ≠ '_')

/-- The text of digits that is meant by a text of an integer without its sign. -/
def cleanDigits? (text : List Char) : Option (List Char) :=
  (withoutLeadingZeros? text).map fun rest => withoutUnderscores (withoutZeroFraction rest)

/-- The plain text that is meant by a text of an integer.  A minus sign is accepted behind leading
zeros as well, but not behind a plus sign. -/
def plainInteger? : List Char → Option (List Char)
  | '-' :: rest => (cleanDigits? rest).map ('-' :: ·)
  | '+' :: '-' :: _ => none
  | '+' :: rest => cleanDigits? rest
  | text => cleanDigits? text

/-- The integer of a plain text: digits without leading zeros, behind a minus sign if it is negative.
That there are too many digits is noticed before anything behind them. -/
def readPlainInteger (text : List Char) : Except OptionFault Int :=
  let negative := text.head? = some '-'
  let digits := if negative then text.drop 1 else text
  let count := (digits.takeWhile Char.isDigit).length
  if digits.head? = some '0' then
    if digits.length = 1 then .ok 0 else .error .intParsing
  else if digitLimit < count + (text.length - digits.length) then .error .intParsingSize
  else if count = 0 || count < digits.length then .error .intParsing
  else
    let size : Int := numeralValue digits
    .ok (if negative then -size else size)

/-- The integer that a text stands for. -/
def integerOfText (text : List Char) : Except OptionFault Int :=
  match plainInteger? (stripNumber text) with
  | none => .error .intParsing
  | some plain => readPlainInteger plain

/-! ## Integers, texts and kinds -/

/-- Converts a value to an integer. -/
def coerceInt (value : Value) : Except OptionFault Int :=
  match value with
  | .bool b => .ok (if b then 1 else 0)
  | .int n => .ok n
  | .float .nan | .float (.infinity _) => .error .finiteNumber
  | .float x =>
    match x.toInt? with
    | some n => if isWholeWord n then .ok n else .error .intParsingSize
    | none => .error .intFromFloat
  | value =>
    match characters? value with
    | some text => integerOfText text.toList
    | none => .error .intType

/-- Converts a value to a text. -/
def coerceText (value : Value) : Except OptionFault String :=
  match characters? value with
  | some text => .ok text
  | none => .error .stringType

/-- Converts a value to a kind of store. -/
def coerceKind (value : Value) : Except OptionFault StorageKind :=
  match value.text?.bind StorageKind.ofName? with
  | some kind => .ok kind
  | none => .error .literal

/-- Converts a value that may be `null`. -/
def coerceOptional {α : Type} (coerce : Value → Except OptionFault α) (value : Value) :
    Except OptionFault (Option α) :=
  if value.isNull then .ok none else (coerce value).map some

/-! ## Options -/

/-- The option of a given name, converted, if it is given. -/
def checkField {α : Type} (fields : Fields Value) (name : String)
    (coerce : Value → Except OptionFault α) : Checked (Option α) :=
  match fields.get? name with
  | none => .ok none
  | some value =>
    match coerce value with
    | .ok a => .ok (some a)
    | .error fault => .error [⟨fault, [name]⟩]

/-- Whether zones are validated: under its short name or, if that is not given, under its long
one. -/
def checkValidate (fields : Fields Value) : Checked (Option Bool) :=
  if fields.has "validate" then checkField fields "validate" coerceBool
  else checkField fields "validate_timezone" coerceBool

/-- The time zone options of a mapping. -/
def TimezonePatch.ofFields (fields : Fields Value) : Checked TimezonePatch :=
  (((checkField fields "type" coerceText).both (checkValidate fields)).both
    (checkField fields "strict" coerceBool)).map fun ((zone, validate), strict) =>
      { zone, validate, strict }

/-- The storage options of a mapping. -/
def StoragePatch.ofFields (fields : Fields Value) : Checked StoragePatch :=
  let kind := checkField fields "type" coerceKind
  let keyPrefix := checkField fields "prefix" coerceText
  let redisUrl := checkField fields "redis_url" coerceText
  let redisPassword := checkField fields "redis_password" (coerceOptional coerceText)
  let redisDb := checkField fields "redis_db" (coerceOptional coerceInt)
  let databaseUrl := checkField fields "database_url" coerceText
  let databaseEcho := checkField fields "database_echo" coerceBool
  (kind.both (keyPrefix.both (redisUrl.both (redisPassword.both (redisDb.both
    (databaseUrl.both databaseEcho)))))).map
      fun (kind, keyPrefix, redisUrl, redisPassword, redisDb, databaseUrl, databaseEcho) =>
        { kind, keyPrefix, redisUrl, redisPassword, redisDb, databaseUrl, databaseEcho }

/-- The time zone options that a value stands for. -/
def TimezonePatch.ofValue : Value → Checked TimezonePatch
  | .timezoneOptions patch => .ok patch
  | .mapping fields => TimezonePatch.ofFields fields
  | _ => .error [⟨.modelType, []⟩]

/-- The storage options that a value stands for. -/
def StoragePatch.ofValue : Value → Checked StoragePatch
  | .storageOptions patch => .ok patch
  | .mapping fields => StoragePatch.ofFields fields
  | _ => .error [⟨.modelType, []⟩]

/-- The part of the options of a given name, converted, if it is given. -/
def checkPart {α : Type} (fields : Fields Value) (name : String) (convert : Value → Checked α) :
    Checked (Option α) :=
  match fields.get? name with
  | none => .ok none
  | some value => ((convert value).under name).map some

/-- The module options of a mapping. -/
def ModulePatch.ofFields (fields : Fields Value) : Checked ModulePatch :=
  let serverTasks := checkField fields "server_tasks" coerceBool
  let tasksDir := checkField fields "tasks_dir" (coerceOptional coerceText)
  let storage := checkPart fields "storage" StoragePatch.ofValue
  let timezone := checkPart fields "timezone" TimezonePatch.ofValue
  (serverTasks.both (tasksDir.both (storage.both timezone))).map
    fun (serverTasks, tasksDir, storage, timezone) =>
      { serverTasks, tasksDir, storage, timezone }

/-- The module options that a value stands for. -/
def ModulePatch.ofValue : Value → Checked ModulePatch
  | .moduleOptions patch => .ok patch
  | .mapping fields => ModulePatch.ofFields fields
  | _ => .error [⟨.modelType, []⟩]

end Crontab
