import Crontab.Json.Basic
import Crontab.Number.Shortest
import Crontab.Text.Quoted

/-!
# Writing JSON texts

The written form is ASCII: items are separated by a comma and a space, names and values by a colon
and a space, and every character outside the printable ASCII range is escaped, those beyond the
basic plane as a surrogate pair.  An integer of more digits than are read has no written form.

* `Json.escape` — the written form of one character;
* `Json.isWritable` — whether a value has a written form;
* `Json.write` — the written form of a value;
* `Json.toText` — the same as a string.
-/

namespace Crontab.Json

open Crontab.Text Crontab.Number

/-- A code unit of 16 bits as an escape of four hexadecimal digits. -/
def escapeUnit (unit : Nat) : List Char :=
  backslash :: 'u' :: hexadecimal 4 unit

/-- The written form of a character inside a text. -/
def escape (c : Char) : List Char :=
  if c = doubleQuote || c = backslash then [backslash, c]
  else if c = '\n' then [backslash, 'n']
  else if c = '\r' then [backslash, 'r']
  else if c = '\t' then [backslash, 't']
  else if c.toNat = 0x0C then [backslash, 'f']
  else if c.toNat = 0x08 then [backslash, 'b']
  else if 0x20 ≤ c.toNat && c.toNat ≤ 0x7E then [c]
  else if c.toNat < 0x10000 then escapeUnit c.toNat
  else
    let above := c.toNat - 0x10000
    escapeUnit (0xD800 + above / 0x400) ++ escapeUnit (0xDC00 + above % 0x400)

/-- The written form of a text. -/
def writeText (text : String) : List Char :=
  doubleQuote :: text.toList.flatMap escape ++ [doubleQuote]

/-- The written form of a floating point number. -/
def writeFloat : Binary64 → List Char
  | .nan => ['N', 'a', 'N']
  | .infinity negative =>
    (if negative then ['-'] else []) ++ ['I', 'n', 'f', 'i', 'n', 'i', 't', 'y']
  | x => x.chars

mutual

/-- Whether a value has a written form: no integer in it has too many digits. -/
def isWritable : Json → Bool
  | .int n => decide ((numeral n.natAbs).length ≤ digitLimit)
  | .list items => areWritable items
  | .object fields => haveWritableValues fields
  | _ => true

/-- Whether all of some values have a written form. -/
def areWritable : List Json → Bool
  | [] => true
  | item :: items => item.isWritable && areWritable items

/-- Whether the values of all fields have a written form. -/
def haveWritableValues : List (String × Json) → Bool
  | [] => true
  | (_, value) :: fields => value.isWritable && haveWritableValues fields

end

mutual

/-- The written form of a value. -/
def write : Json → List Char
  | .null => ['n', 'u', 'l', 'l']
  | .bool true => ['t', 'r', 'u', 'e']
  | .bool false => ['f', 'a', 'l', 's', 'e']
  | .int n => signedNumeral n
  | .float x => writeFloat x
  | .text s => writeText s
  | .list [] => ['[', ']']
  | .list (item :: items) => '[' :: write item ++ writeItems items ++ [']']
  | .object [] => ['\x7b', '\x7d']
  | .object ((name, value) :: fields) =>
    '\x7b' :: writeText name ++ ':' :: ' ' :: write value ++ writeFields fields ++ ['\x7d']

/-- The items that follow another one, each after its separator. -/
def writeItems : List Json → List Char
  | [] => []
  | item :: items => ',' :: ' ' :: write item ++ writeItems items

/-- The fields that follow another one, each after its separator. -/
def writeFields : List (String × Json) → List Char
  | [] => []
  | (name, value) :: fields =>
    ',' :: ' ' :: writeText name ++ ':' :: ' ' :: write value ++ writeFields fields

end

/-- The written form of a value. -/
def toText (value : Json) : String :=
  String.ofList value.write

end Crontab.Json
