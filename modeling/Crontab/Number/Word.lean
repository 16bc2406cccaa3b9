import Crontab.Number.Shortest
import Crontab.Text.Integer

/-!
# Numbers in words

A word stands for a floating point number if it holds a decimal, with single underscores between
digits and digits of any script, or the name of a number that is none or infinite; a sign may stand in
front, and blanks around.

* `isNumberWord` — whether a word stands for a number.
-/

namespace Crontab.Number

open Crontab.Text

/-- The names of the numbers that are not finite, in small letters. -/
def unboundedNames : List (List Char) :=
  ["nan".toList, "inf".toList, "infinity".toList]

/-- Whether neighbouring parts of a text meet with digits. -/
def meetWithDigits : List (List Char) → Bool
  | front :: back :: rest =>
    front.getLast?.any Char.isDigit && back.head?.any Char.isDigit && meetWithDigits (back :: rest)
  | _ => true

/-- Whether a text is a decimal without a sign, with single underscores between digits. -/
def isGroupedDecimal (text : List Char) : Bool :=
  meetWithDigits (text.splitOn '_') &&
    (Binary64.readMagnitude? false (text.filter (· ≠ '_'))).isSome

/-- Whether a word stands for a number. -/
def isNumberWord (word : List Char) : Bool :=
  let plain := asciiDigits (stripNumber word)
  let rest := if plain.head? = some '-' || plain.head? = some '+' then plain.drop 1 else plain
  unboundedNames.contains (rest.map Char.toLower) || isGroupedDecimal rest

end Crontab.Number
