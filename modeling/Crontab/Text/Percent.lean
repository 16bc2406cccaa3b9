/-!
# Percent escapes

In the query of a URL an octet may be written as a percent sign and two hexadecimal digits, and the
octets are those of characters in UTF-8.  Octets that are no characters are read as replacement
characters, one for each longest start of a character.

* `Piece`, `pieces` — a text as octets and characters;
* `Decoder` — reads octets one after the other;
* `unescape` — the text without its escapes.
-/

namespace Crontab.Text.Percent

/-- A part of an escaped text. -/
inductive Piece
  | octet (value : Nat)
  | char (c : Char)
deriving DecidableEq, Repr

/-- The value of a hexadecimal digit. -/
def hexValue? (c : Char) : Option Nat :=
  if c.isDigit then some (c.toNat - '0'.toNat)
  else if 'a' ≤ c ∧ c ≤ 'f' then some (c.toNat - 'a'.toNat + 10)
  else if 'A' ≤ c ∧ c ≤ 'F' then some (c.toNat - 'A'.toNat + 10)
  else none

/-- The octet of two hexadecimal digits. -/
def octet? (high low : Char) : Option Nat := do
  let high ← hexValue? high
  let low ← hexValue? low
  pure (16 * high + low)

/-- The parts of a text; a percent sign without two digits stands for itself. -/
def pieces : List Char → List Piece
  | '%' :: high :: low :: rest =>
    match octet? high low with
    | some value => .octet value :: pieces rest
    | none => .char '%' :: pieces (high :: low :: rest)
  | c :: rest => .char c :: pieces rest
  | [] => []

/-- The character that stands for octets that are none. -/
def replacement : Char := '\uFFFD'

/-- The characters that were read, in reverse, and the one that was begun: its bits so far, the
number of octets that are owed, and the bounds of the next one. -/
structure Decoder where
  characters : List Char := []
  bits : Nat := 0
  owed : Nat := 0
  least : Nat := 0x80
  greatest : Nat := 0xBF
deriving DecidableEq, Repr

namespace Decoder

/-- With another character, and none begun. -/
def emit (decoder : Decoder) (c : Char) : Decoder :=
  { characters := c :: decoder.characters }

/-- With a character begun. -/
def start (decoder : Decoder) (bits owed least greatest : Nat) : Decoder :=
  { characters := decoder.characters, bits, owed, least, greatest }

/-- Reads the first octet of a character. -/
def first (decoder : Decoder) (octet : Nat) : Decoder :=
  if octet < 0x80 then decoder.emit (Char.ofNat octet)
  else if octet < 0xC2 then decoder.emit replacement
  else if octet < 0xE0 then decoder.start (octet - 0xC0) 1 0x80 0xBF
  else if octet = 0xE0 then decoder.start 0 2 0xA0 0xBF
  else if octet = 0xED then decoder.start 0xD 2 0x80 0x9F
  else if octet < 0xF0 then decoder.start (octet - 0xE0) 2 0x80 0xBF
  else if octet = 0xF0 then decoder.start 0 3 0x90 0xBF
  else if octet < 0xF4 then decoder.start (octet - 0xF0) 3 0x80 0xBF
  else if octet = 0xF4 then decoder.start 4 3 0x80 0x8F
  else decoder.emit replacement

/-- Gives up a character that was begun. -/
def settle (decoder : Decoder) : Decoder :=
  if decoder.owed = 0 then decoder else decoder.emit replacement

/-- Reads an octet. -/
def octet (decoder : Decoder) (octet : Nat) : Decoder :=
  if decoder.owed = 0 then decoder.first octet
  else if decoder.least ≤ octet ∧ octet ≤ decoder.greatest then
    let bits := 64 * decoder.bits + octet % 64
    if decoder.owed = 1 then decoder.emit (Char.ofNat bits)
    else decoder.start bits (decoder.owed - 1) 0x80 0xBF
  else decoder.settle.first octet

/-- Reads a part of a text. -/
def read (decoder : Decoder) : Piece → Decoder
  | .octet value => decoder.octet value
  | .char c => decoder.settle.emit c

end Decoder

/-- The text without its escapes. -/
def unescape (text : List Char) : List Char :=
  ((pieces text).foldl Decoder.read {}).settle.characters.reverse

end Crontab.Text.Percent
