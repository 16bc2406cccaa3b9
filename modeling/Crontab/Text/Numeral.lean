/-!
# Decimal numerals

Reading and writing of natural numbers and integers in decimal digits.

* `isNumeral` — a text of ASCII digits only, at least one;
* `numeralValue` — the number such a text denotes, leading zeros allowed;
* `numeral` — the digits of a number without leading zeros;
* `padded` — the digits of a number filled up with zeros on the left.

A numeral of more than `digitLimit` digits is not read: the readers that take numerals of any
length answer with `DigitLimit` instead.
-/

namespace Crontab.Text

/-- Whether a text consists of ASCII digits, at least one. -/
def isNumeral (text : List Char) : Bool :=
  !text.isEmpty && text.all Char.isDigit

/-- The number denoted by a text of ASCII digits. -/
def numeralValue (text : List Char) : Nat :=
  Nat.ofDigitChars 10 text 0

/-- The digits of a number, without leading zeros. -/
def numeral (n : Nat) : List Char :=
  Nat.toDigits 10 n

/-- The digits of an integer, after a minus sign if it is negative. -/
def signedNumeral (n : Int) : List Char :=
  if n < 0 then '-' :: numeral n.natAbs else numeral n.natAbs

/-- The text filled up on the left with `fill` to at least `width` characters. -/
def fillStart (fill : Char) (width : Nat) (text : List Char) : List Char :=
  List.replicate (width - text.length) fill ++ text

/-- The digits of a number, with leading zeros up to `width` digits. -/
def padded (width n : Nat) : List Char :=
  fillStart '0' width (numeral n)

/-- The greatest number of digits a numeral may have to be read, leading zeros included. -/
def digitLimit : Nat := 4300

/-- The failure to read a numeral that has too many digits. -/
structure DigitLimit where
  /-- The number of digits of the rejected numeral. -/
  digits : Nat
deriving DecidableEq, Repr

/-- The wording of a rejected numeral. -/
def DigitLimit.message (e : DigitLimit) : String :=
  "Exceeds the limit (4300 digits) for integer string conversion: value has " ++ toString e.digits
    ++ " digits; use sys.set_int_max_str_digits() to increase the limit"

/-- Reads a text of ASCII digits, up to the digit limit. -/
def readNumeral (digits : List Char) : Except DigitLimit Nat :=
  if digitLimit < digits.length then .error ⟨digits.length⟩ else .ok (numeralValue digits)

/-- A written number has at least one digit and nothing but digits. -/
theorem isNumeral_numeral (n : Nat) : isNumeral (numeral n) = true := by
  simp only [isNumeral, numeral, Bool.and_eq_true, Bool.not_eq_true', List.isEmpty_eq_false_iff,
    List.all_eq_true]
  exact ⟨Nat.toDigits_ne_nil, fun c hc => Nat.isDigit_of_mem_toDigits (by decide) (by decide) hc⟩

/-- Writing a number and reading the digits gives the number back. -/
theorem numeralValue_numeral (n : Nat) : numeralValue (numeral n) = n :=
  Nat.ofDigitChars_ten_toDigits

end Crontab.Text
