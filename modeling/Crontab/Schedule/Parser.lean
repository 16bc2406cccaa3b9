import Crontab.Schedule.Basic
import Crontab.Text.Blank

/-!
# Reading schedule expressions

An expression has five words, one for each field.  A field is a list of items separated by commas;
an item is `*`, a number, or a range of two numbers around a hyphen, and may be thinned out by a step
after a slash.  Blanks are allowed around every sign.

* `Item`, `Item.values` — what an item says and the values it stands for;
* `Field.readItem`, `Field.read` — reading one item and a whole field;
* `Schedule.parse` — reading an expression;
* `ParseError` — the causes of failure with their wording.

The first fault from the left decides the error.
-/

namespace Crontab

open Text

/-! ## Items -/

/-- The values an item starts from before its step is applied. -/
inductive Span
  | every
  | single (n : Nat)
  | range (first last : Nat)
deriving DecidableEq, Repr

/-- An item of a field: a span, and the step that thins it out. -/
structure Item where
  span : Span
  step : Option Nat
deriving DecidableEq, Repr

/-- The numbers `first`, `first + step`, … up to `last`, for `first ≤ last` and a positive step. -/
def progression (first last step : Nat) : List Nat :=
  List.range' first ((last - first) / step + 1) step

/-- Where `*` with a step starts: at the least value, but at February in the month field. -/
def Field.stepStart (field : Field) : Nat :=
  if field = .month then 2 else field.least

/-- The values an item stands for. -/
def Item.values (field : Field) : Item → List Nat
  | ⟨.every, none⟩ => field.values
  | ⟨.every, some step⟩ => progression field.stepStart field.greatest step
  | ⟨.single n, none⟩ => [n]
  | ⟨.single n, some step⟩ => progression n field.greatest step
  | ⟨.range first last, none⟩ => progression first last 1
  | ⟨.range first last, some step⟩ => progression first last step

/-! ## Errors -/

/-- What is wrong with the text of a field. -/
inductive FieldFault
  | emptyItem
  | stepFormat
  | stepValue
  | rangeFormat
  | rangeOrder
  | numberFormat
  | numberRange
deriving DecidableEq, Repr

/-- The wording of a fault. -/
def FieldFault.message : FieldFault → String
  | .emptyItem => "Empty list item"
  | .stepFormat => "Invalid step format"
  | .stepValue => "Invalid step value"
  | .rangeFormat => "Invalid range format"
  | .rangeOrder => "Range start must be less than or equal to end"
  | .numberFormat => "Invalid number format"
  | .numberRange => "Value out of range"

/-- Why a field cannot be read: a fault, shown with the text it was found in, or a number with too
many digits. -/
inductive FieldError
  | rejected (fault : FieldFault) (text : List Char)
  | tooManyDigits (limit : DigitLimit)
deriving DecidableEq, Repr

/-- Why an expression is no schedule. -/
inductive ParseError
  | notText
  | wordCount (count : Nat)
  | rejected (field : Field) (fault : FieldFault) (text : String)
  | unreadable
deriving DecidableEq, Repr

namespace ParseError

/-- The name of the field at fault, if one is. -/
def field? : ParseError → Option String
  | .rejected field _ _ => some field.name
  | _ => none

/-- The text at fault, if a field is. -/
def text? : ParseError → Option String
  | .rejected _ _ text => some text
  | _ => none

/-- The wording of a fault, with the field and the text that it is found in. -/
def faultMessage (field : Field) (fault : FieldFault) (text : String) : String :=
  fault.message ++ " (field: " ++ field.name ++ ", value: '" ++ text ++ "')"

/-- The wording of an error. -/
def message : ParseError → String
  | .notText => "Cron expression must be a string"
  | .wordCount count => "Invalid number of fields: expected 5, got " ++ toString count
  | .rejected field fault text => faultMessage field fault text
  | .unreadable => "Failed to parse cron expression"

end ParseError

/-! ## Fields -/

namespace Field

/-- Reads a number of a field; faults are shown with `context`. -/
def readNumber (field : Field) (context digits : List Char) : Except FieldError Nat :=
  if isNumeral digits then
    match readNumeral digits with
    | .error limit => .error (.tooManyDigits limit)
    | .ok n => if field.admits n then .ok n else .error (.rejected .numberRange context)
  else .error (.rejected .numberFormat context)

/-- Reads a range: two numbers in order around a hyphen. -/
def readRange (field : Field) (text : List Char) : Except FieldError Span :=
  match text.splitOn '-' with
  | [first, last] =>
    let first := stripEnd first
    let last := stripStart last
    if isNumeral first && isNumeral last then do
      let first ← field.readNumber text first
      let last ← field.readNumber text last
      if first ≤ last then .ok (.range first last) else .error (.rejected .rangeOrder text)
    else .error (.rejected .rangeFormat text)
  | _ => .error (.rejected .rangeFormat text)

/-- Reads a step: a positive number that does not exceed the greatest value of the field. -/
def readStep (field : Field) (context digits : List Char) : Except FieldError Nat := do
  let step ← field.readNumber context digits
  if 0 < step ∧ step ≤ field.greatest then .ok step else .error (.rejected .stepValue context)

/-- Reads a span: `*`, a range or a number, of which a fault is shown with `context`. -/
def readSpan (field : Field) (context text : List Char) : Except FieldError Span :=
  if text = ['*'] then .ok .every
  else if text.contains '-' then field.readRange text
  else (field.readNumber context text).map .single

/-- Reads an item that has no blanks at its ends: a span, or a span and a step around a slash. -/
def readItem (field : Field) (context text : List Char) : Except FieldError Item :=
  if text.contains '/' then
    match (text.splitOn '/').map strip with
    | [span, step] =>
      if span.isEmpty || step.isEmpty then .error (.rejected .stepFormat text)
      else do
        let step ← field.readStep text step
        let span ← field.readSpan text span
        .ok ⟨span, some step⟩
    | _ => .error (.rejected .stepFormat text)
  else do
    let span ← field.readSpan context text
    .ok ⟨span, none⟩

/-- Reads the items of a list one after the other. -/
def readItems (field : Field) (context : List Char) :
    List (List Char) → Except FieldError (List Item)
  | [] => .ok []
  | item :: items =>
    let item := strip item
    if item.isEmpty then .error (.rejected .emptyItem context)
    else do
      let first ← field.readItem item item
      let rest ← readItems field context items
      .ok (first :: rest)

/-- The values of a field that belong to one of the items, in ascending order. -/
def union (field : Field) (items : List Item) : List Nat :=
  field.values.filter fun n => items.any fun item => (item.values field).contains n

/-- Reads the text of a field: one item or a list of items. -/
def read (field : Field) (text : List Char) : Except FieldError (List Item) :=
  let stripped := strip text
  if stripped.contains ',' then field.readItems stripped (stripped.splitOn ',')
  else (field.readItem text stripped).map ([·])

/-- The values that the text of a field stands for, in ascending order. -/
def parse (field : Field) (text : List Char) : Except FieldError (List Nat) :=
  (field.read text).map field.union

end Field

/-! ## Expressions -/

/-- The values of a field of an expression.  A number with too many digits makes the expression
unreadable as a whole. -/
def Field.parseWord (field : Field) (word : List Char) : Except ParseError (List Nat) :=
  match field.parse word with
  | .ok values => .ok values
  | .error (.rejected fault text) => .error (.rejected field fault (String.ofList text))
  | .error (.tooManyDigits _) => .error .unreadable

namespace Schedule

/-- The schedule that a text of five words stands for. -/
def parseChars (text : List Char) : Except ParseError Schedule :=
  match words text with
  | [minute, hour, dayOfMonth, month, dayOfWeek] => do
    let minute ← Field.minute.parseWord minute
    let hour ← Field.hour.parseWord hour
    let dayOfMonth ← Field.dayOfMonth.parseWord dayOfMonth
    let month ← Field.month.parseWord month
    let dayOfWeek ← Field.dayOfWeek.parseWord dayOfWeek
    .ok ⟨minute, hour, dayOfMonth, month, dayOfWeek⟩
  | fields => .error (.wordCount fields.length)

/-- The schedule that an expression stands for. -/
def parse (expression : String) : Except ParseError Schedule :=
  parseChars expression.toList

end Schedule

end Crontab
