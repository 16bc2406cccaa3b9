import Crontab.Schedule.Parser
import Crontab.Value.Display

/-!
# Fields by name

A field may be asked for by a name, with a text to be read or a value to be checked.  Callers may
pass anything for both.

* `parseNamedField` — the values that a text stands for in the field of a name;
* `isFieldValue` — whether a value belongs to the field of a name;
* `NamedFieldError`, `NameFault` — the causes of failure.
-/

namespace Crontab

open Text

/-- Why there is no field of a name. -/
inductive NameFault
  /-- The name is of a kind that names nothing. -/
  | notAName
  | unknown (name : Value)

/-- The field of a given name. -/
def Field.ofNameValue (name : Value) : Except NameFault Field :=
  if name.canBeKey then
    match name.text?.bind Field.ofName? with
    | some field => .ok field
    | none => .error (.unknown name)
  else .error .notAName

/-- Whether a value is an integer inside the bounds of the field of a given name.  The field is
looked up only for an integer. -/
def isFieldValue (name value : Value) : Except NameFault Bool :=
  match value with
  | .int n => (Field.ofNameValue name).map (·.admits n)
  | _ => .ok false

/-- Why a field given by name cannot be read. -/
inductive NamedFieldError
  | name (fault : NameFault)
  /-- The text is a value without blanks to be stripped of. -/
  | notAText
  /-- The text is of a kind that holds no characters. -/
  | notCharacters
  | parse (error : ParseError)
  /-- The text is a status, which stands for no number in any field. -/
  | status (field : Field) (given : Status)
  | tooManyDigits (limit : DigitLimit)

/-- The wording of a name that no field has. -/
def unknownFieldMessage (name : Value) : String :=
  "Unknown cron field '" ++ name.plain ++ "'"

/-- The wording of a status in the place of a text. -/
def statusFieldMessage (field : Field) (given : Status) : String :=
  ParseError.faultMessage field .numberFormat (Value.status given).plain

/-- The values that a text stands for in a field. -/
def Field.parseText (field : Field) (text : String) : Except NamedFieldError (List Nat) :=
  match field.parse text.toList with
  | .ok values => .ok values
  | .error (.rejected fault text) => .error (.parse (.rejected field fault (String.ofList text)))
  | .error (.tooManyDigits limit) => .error (.tooManyDigits limit)

/-- The values that a given text stands for in a field. -/
def Field.parseValue (field : Field) (text : Value) : Except NamedFieldError (List Nat) :=
  match text with
  | .text text => field.parseText text
  | .status given => .error (.status field given)
  | .bytes _ => .error .notCharacters
  | other => .error (if (other.attribute? "strip").isSome then .notCharacters else .notAText)

/-- The values that a given text stands for in the field of a given name. -/
def parseNamedField (name text : Value) : Except NamedFieldError (List Nat) :=
  match Field.ofNameValue name with
  | .error fault => .error (.name fault)
  | .ok field => field.parseValue text

end Crontab
