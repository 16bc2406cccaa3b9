import Crontab.Number.Shortest

/-!
# Texts with a fixed number of significant digits

A column of texts takes a floating point number as a decimal of at most 15 significant digits, with a
digit on both sides of the point.

* `significant` — the decimal of a given number of significant digits nearest to a ratio, a tie going
  away from zero;
* `Binary64.columnText?` — the text that a column takes for a number; none for not-a-number.
-/

namespace Crontab.Number

open Crontab.Text

/-- The decimal of `count` significant digits nearest to `num / den`, a tie going away from zero. -/
def significant (count num den : Nat) : Decimal :=
  let exponent := pointPosition num den - count
  let (n, d) := scaleDecimal num den (-exponent)
  ⟨(2 * n + d) / (2 * d), exponent⟩

/-- The number of significant digits of a number in a column. -/
def columnDigits : Nat := 15

/-- The text of a positive decimal in a column: positional for decimal exponents from -4 to 14 and
scientific outside, always with a digit on both sides of the point. -/
def Decimal.columnText (decimal : Decimal) : List Char :=
  let all := numeral decimal.digits
  let exponent : Int := all.length + decimal.exponent - 1
  let digits := trimZeros all
  let withPoint (front back : List Char) : List Char :=
    front ++ '.' :: if back.isEmpty then ['0'] else back
  if exponent < -4 ∨ (columnDigits : Int) ≤ exponent then
    let sign := if exponent < 0 then '-' else '+'
    withPoint (digits.take 1) (digits.drop 1) ++ 'e' :: sign :: padded 2 exponent.natAbs
  else if exponent < 0 then
    withPoint ['0'] (List.replicate (-exponent - 1).toNat '0' ++ digits)
  else
    let whole := (exponent + 1).toNat
    let front := digits.take whole
    withPoint (front ++ List.replicate (whole - front.length) '0') (digits.drop whole)

namespace Binary64

/-- The text that a column takes for a number; none for not-a-number. -/
def columnText? : Binary64 → Option String
  | .nan => none
  | .infinity negative => some (if negative then "-Inf" else "Inf")
  | .finite negative exponent fraction =>
    let significand := significandOf exponent fraction
    if significand = 0 then some "0.0"
    else
      let (num, den) := scaleRatio significand 1 (scaleOf exponent)
      some (String.ofList
        ((if negative then ['-'] else []) ++ (significant columnDigits num den).columnText))

end Binary64

end Crontab.Number
