import Crontab.Json.Basic
import Crontab.Number.Shortest
import Crontab.Text.Quoted

/-!
# Reading JSON texts

The reader accepts the usual grammar, and besides it the names `NaN`, `Infinity` and `-Infinity`
for floating point numbers.  A number with a fraction or an exponent is a floating point number,
every other one an integer.  Of several fields of one name the last one counts.  Control characters
inside texts are rejected.

* `Json.Fault` — why a text is no value: bad form, or an integer with too many digits;
* `Json.readText`, `Json.readNumber` — the two kinds of leaves with a grammar of their own;
* `Json.read` — the value a whole text denotes.

The recursion is bounded by the length of the text: every step into a value consumes a character.
-/

namespace Crontab.Json

open Crontab.Text Crontab.Number

/-- Why a text does not denote a value. -/
inductive Fault
  | malformed
  | tooManyDigits (limit : DigitLimit)
deriving DecidableEq, Repr

/-- What reading a part of a text gives: the part's meaning and the rest of the text. -/
abbrev Reading (α : Type) := Except Fault (α × List Char)

/-- The text without its leading spaces, tabs and line ends. -/
def skipSpace (text : List Char) : List Char :=
  text.dropWhile fun c => c == ' ' || c == '\t' || c == '\n' || c == '\r'

/-- The rest of a text after the given start. -/
def after? : (start text : List Char) → Option (List Char)
  | [], rest => some rest
  | _ :: _, [] => none
  | c :: start, d :: rest => if c = d then after? start rest else none

/-- The value of a hexadecimal digit. -/
def hexDigit? (c : Char) : Option Nat :=
  if c.isDigit then some (c.toNat - '0'.toNat)
  else if 'a' ≤ c ∧ c ≤ 'f' then some (c.toNat - 'a'.toNat + 10)
  else if 'A' ≤ c ∧ c ≤ 'F' then some (c.toNat - 'A'.toNat + 10)
  else none

/-- The code unit written as four hexadecimal digits at the start of a text, and the rest. -/
def readUnit? : List Char → Option (Nat × List Char)
  | a :: b :: c :: d :: rest => do
    let a ← hexDigit? a
    let b ← hexDigit? b
    let c ← hexDigit? c
    let d ← hexDigit? d
    pure (((a * 16 + b) * 16 + c) * 16 + d, rest)
  | _ => none

/-- The low surrogate escaped at the start of a text, and the rest. -/
def readLowUnit? : List Char → Option (Nat × List Char)
  | '\\' :: 'u' :: rest =>
    match readUnit? rest with
    | some (unit, rest) => if 0xDC00 ≤ unit ∧ unit < 0xE000 then some (unit, rest) else none
    | none => none
  | _ => none

/-- The character of an escape of one letter. -/
def shortEscape? (c : Char) : Option Char :=
  if c = doubleQuote ∨ c = backslash ∨ c = '/' then some c
  else if c = 'b' then some '\x08'
  else if c = 'f' then some '\x0c'
  else if c = 'n' then some '\n'
  else if c = 'r' then some '\r'
  else if c = 't' then some '\t'
  else none

/-- The character escaped at the start of a text that follows a backslash, and the rest.  A
surrogate without its partner stands for the replacement character. -/
def readEscape? : List Char → Option (Char × List Char)
  | 'u' :: rest =>
    match readUnit? rest with
    | none => none
    | some (unit, rest) =>
      if 0xD800 ≤ unit ∧ unit < 0xDC00 then
        match readLowUnit? rest with
        | some (low, rest) =>
          some (Char.ofNat (0x10000 + (unit - 0xD800) * 0x400 + (low - 0xDC00)), rest)
        | none => some ('\ufffd', rest)
      else if 0xDC00 ≤ unit ∧ unit < 0xE000 then some ('\ufffd', rest)
      else some (Char.ofNat unit, rest)
  | c :: rest => (shortEscape? c).map (·, rest)
  | [] => none

/-- Reads the characters of a text up to its closing quote; `read` holds those read so far, the
last one first. -/
def readChars : (bound : Nat) → (read text : List Char) → Reading (List Char)
  | 0, _, _ => .error .malformed
  | _, _, [] => .error .malformed
  | bound + 1, read, c :: rest =>
    if c = doubleQuote then .ok (read.reverse, rest)
    else if c = backslash then
      match readEscape? rest with
      | some (escaped, rest) => readChars bound (escaped :: read) rest
      | none => .error .malformed
    else if c.toNat < 0x20 then .error .malformed
    else readChars bound (c :: read) rest

/-- Reads a text after its opening quote. -/
def readText (text : List Char) : Reading String :=
  (readChars (text.length + 1) [] text).map fun (chars, rest) => (String.ofList chars, rest)

/-- The digits after a point at the start of a text; nothing if no digit follows. -/
def readFraction : List Char → List Char × List Char
  | '.' :: rest =>
    let digits := rest.takeWhile Char.isDigit
    if digits.isEmpty then ([], '.' :: rest) else (digits, rest.dropWhile Char.isDigit)
  | rest => ([], rest)

/-- The exponent at the start of a text, if there is a complete one. -/
def readExponent (text : List Char) : Option Int × List Char :=
  match text with
  | mark :: rest =>
    if mark = 'e' ∨ mark = 'E' then
      let (negative, digits) :=
        match rest with
        | '-' :: digits => (true, digits)
        | '+' :: digits => (false, digits)
        | digits => (false, digits)
      let number := digits.takeWhile Char.isDigit
      if number.isEmpty then (none, text)
      else
        let size : Int := numeralValue number
        (some (if negative then -size else size), digits.dropWhile Char.isDigit)
    else (none, text)
  | [] => (none, [])

/-- The integer part at the start of a text: a zero, or digits that do not start with one. -/
def readWhole? (text : List Char) : Option (List Char × List Char) :=
  match text with
  | '0' :: rest => some (['0'], rest)
  | c :: _ =>
    if c.isDigit then some (text.takeWhile Char.isDigit, text.dropWhile Char.isDigit) else none
  | [] => none

/-- Reads a number without its sign. -/
def readMagnitude (negative : Bool) (text : List Char) : Reading Json :=
  match readWhole? text with
  | none => .error .malformed
  | some (whole, rest) =>
    let (fraction, rest) := readFraction rest
    let (exponent, rest) := readExponent rest
    if fraction.isEmpty && exponent.isNone then
      match readNumeral whole with
      | .ok n => .ok (.int (if negative then -(n : Int) else n), rest)
      | .error limit => .error (.tooManyDigits limit)
    else
      .ok (.float (Binary64.ofDecimal negative (numeralValue (whole ++ fraction))
        (exponent.getD 0 - fraction.length)), rest)

/-- The names that stand for a value of their own. -/
def literals : List (List Char × Json) :=
  [(['n', 'u', 'l', 'l'], .null), (['t', 'r', 'u', 'e'], .bool true),
   (['f', 'a', 'l', 's', 'e'], .bool false), (['N', 'a', 'N'], .float .nan),
   (['I', 'n', 'f', 'i', 'n', 'i', 't', 'y'], .float (.infinity false)),
   (['-', 'I', 'n', 'f', 'i', 'n', 'i', 't', 'y'], .float (.infinity true))]

/-- Reads a name or a number. -/
def readAtom (text : List Char) : Reading Json :=
  match literals.findSome? fun (name, value) => (after? name text).map (value, ·) with
  | some reading => .ok reading
  | none =>
    match text with
    | '-' :: rest => readMagnitude true rest
    | _ => readMagnitude false text

mutual

/-- Reads a value that starts at the first character. -/
def readValue : (bound : Nat) → List Char → Reading Json
  | 0, _ => .error .malformed
  | bound + 1, input =>
    match input with
    | '"' :: rest => (readText rest).map fun (s, rest) => (.text s, rest)
    | '[' :: rest =>
      match skipSpace rest with
      | ']' :: rest => .ok (.list [], rest)
      | rest => (readItems bound [] rest).map fun (items, rest) => (.list items, rest)
    | '\x7b' :: rest =>
      match skipSpace rest with
      | '\x7d' :: rest => .ok (.object [], rest)
      | rest =>
        (readFields bound [] rest).map fun (fields, rest) => (.object (Fields.ofPairs fields), rest)
    | rest => readAtom rest

/-- Reads the items of a list up to its end; `read` holds those read so far, the last one first. -/
def readItems : (bound : Nat) → (read : List Json) → List Char → Reading (List Json)
  | 0, _, _ => .error .malformed
  | bound + 1, read, input =>
    match readValue bound input with
    | .error fault => .error fault
    | .ok (item, rest) =>
      match skipSpace rest with
      | ',' :: rest => readItems bound (item :: read) (skipSpace rest)
      | ']' :: rest => .ok ((item :: read).reverse, rest)
      | _ => .error .malformed

/-- Reads the fields of an object up to its end; `read` holds those read so far, the last one
first. -/
def readFields : (bound : Nat) → (read : List (String × Json)) → List Char →
    Reading (List (String × Json))
  | 0, _, _ => .error .malformed
  | bound + 1, read, input =>
    match input with
    | '"' :: rest =>
      match readText rest with
      | .error fault => .error fault
      | .ok (name, rest) =>
        match skipSpace rest with
        | ':' :: rest =>
          match readValue bound (skipSpace rest) with
          | .error fault => .error fault
          | .ok (value, rest) =>
            match skipSpace rest with
            | ',' :: rest => readFields bound ((name, value) :: read) (skipSpace rest)
            | '\x7d' :: rest => .ok (((name, value) :: read).reverse, rest)
            | _ => .error .malformed
        | _ => .error .malformed
    | _ => .error .malformed

end

/-- The value a whole text denotes. -/
def read (text : List Char) : Except Fault Json :=
  match readValue (2 * text.length + 2) (skipSpace text) with
  | .error fault => .error fault
  | .ok (value, rest) => if (skipSpace rest).isEmpty then .ok value else .error .malformed

/-- The value a whole text denotes. -/
def ofText (text : String) : Except Fault Json :=
  read text.toList

end Crontab.Json
