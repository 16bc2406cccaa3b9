import Crontab.Text.Numeral
import Crontab.Text.Printable

/-!
# Quoted texts

A text inside a message is shown between quotes, with escapes for what cannot be printed.

* `quoteMark` — single quotes, except around a text with a single and no double quote;
* `escapeChar` — how one character is shown between the quotes;
* `quoted` — the whole quoted text.
-/

namespace Crontab.Text

/-- The single quote. -/
def singleQuote : Char := '\x27'

/-- The double quote. -/
def doubleQuote : Char := '"'

/-- The backslash. -/
def backslash : Char := '\\'

/-- The lower-case hexadecimal digits of a number, with leading zeros up to `width` digits. -/
def hexadecimal (width n : Nat) : List Char :=
  fillStart '0' width (Nat.toDigits 16 n)

/-- The quote put around a text: a single quote unless the text holds one and no double quote. -/
def quoteMark (text : List Char) : Char :=
  if text.contains singleQuote && !text.contains doubleQuote then doubleQuote else singleQuote

/-- How a character is shown inside a text quoted with `mark`. -/
def escapeChar (mark c : Char) : List Char :=
  if c = mark || c = backslash then [backslash, c]
  else if c = '\t' then [backslash, 't']
  else if c = '\n' then [backslash, 'n']
  else if c = '\r' then [backslash, 'r']
  else if isPrintable c then [c]
  else if c.toNat < 0x100 then backslash :: 'x' :: hexadecimal 2 c.toNat
  else if c.toNat < 0x10000 then backslash :: 'u' :: hexadecimal 4 c.toNat
  else backslash :: 'U' :: hexadecimal 8 c.toNat

/-- The text between quotes, with escapes. -/
def quotedChars (text : List Char) : List Char :=
  let mark := quoteMark text
  mark :: text.flatMap (escapeChar mark) ++ [mark]

/-- The text between quotes, with escapes. -/
def quoted (text : String) : String :=
  String.ofList (quotedChars text.toList)

end Crontab.Text
