import Crontab.Text.Blank
import Crontab.Text.DecimalDigit
import Crontab.Text.Numeral
import Crontab.Text.Quoted

/-!
# Integers in words

A word stands for an integer if it holds digits of any script with single underscores between them,
behind a sign or none, and with blanks around.

* `isNumberBlank`, `stripNumber` — the blanks that may surround a number;
* `asciiDigits` — a text with the digits of all scripts as ASCII digits;
* `readInteger` — the integer of a word;
* `IntegerFault` — the causes of failure with their wording.
-/

namespace Crontab.Text

/-- Whether a character is a blank that may surround a number. -/
def isNumberBlank (c : Char) : Bool :=
  isBlank c && !(0x1C ≤ c.toNat && c.toNat ≤ 0x1F)

/-- The text without the blanks that may surround a number. -/
def stripNumber (text : List Char) : List Char :=
  ((text.dropWhile isNumberBlank).reverse.dropWhile isNumberBlank).reverse

/-- The ASCII digit for a digit of any script; other characters as they are. -/
def asciiDigit (c : Char) : Char :=
  match decimalDigit? c with
  | some digit => Char.ofNat ('0'.toNat + digit)
  | none => c

/-- The text with the digits of all scripts as ASCII digits. -/
def asciiDigits (text : List Char) : List Char :=
  text.map asciiDigit

/-- Whether a text consists of groups of digits separated by single underscores. -/
def isGroupedNumeral (text : List Char) : Bool :=
  (text.splitOn '_').all isNumeral

/-- Why a word is no integer. -/
inductive IntegerFault
  | malformed (word : List Char)
  | tooManyDigits (limit : DigitLimit)
deriving DecidableEq, Repr

/-- The greatest number of characters of a quoted word that are shown. -/
def shownLimit : Nat := 200

/-- The wording of a fault. -/
def IntegerFault.message : IntegerFault → String
  | .malformed word =>
    "invalid literal for int() with base 10: " ++ String.ofList ((quotedChars word).take shownLimit)
  | .tooManyDigits limit => limit.message

/-- The limit that the digits at the start of a text exceed, whatever follows them; nothing if there
are not too many of them, or if they are not grouped well. -/
def excessiveDigits? (text : List Char) : Option DigitLimit :=
  let groups := text.takeWhile fun c => c.isDigit || c = '_'
  let digits := groups.filter (· ≠ '_')
  if isGroupedNumeral groups && digitLimit < digits.length then some ⟨digits.length⟩ else none

/-- The integer that a word stands for. -/
def readInteger (word : List Char) : Except IntegerFault Int :=
  let plain := asciiDigits (stripNumber word)
  let negative := plain.head? = some '-'
  let rest := if negative || plain.head? = some '+' then plain.drop 1 else plain
  match excessiveDigits? rest with
  | some limit => .error (.tooManyDigits limit)
  | none =>
    if isGroupedNumeral rest then
      let size : Int := numeralValue (rest.filter (· ≠ '_'))
      .ok (if negative then -size else size)
    else .error (.malformed word)

end Crontab.Text
