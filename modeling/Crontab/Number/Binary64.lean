/-!
# Binary floating point numbers

The numbers of the 64 bit binary format, as data and without hardware arithmetic.

* `Binary64` — not-a-number, the infinities, and the finite numbers by sign, exponent and fraction
  fields, so that every finite datum (the two zeros included) has exactly one representation;
* `Binary64.significand`, `Binary64.scale` — a finite number is `significand * 2 ^ scale`;
* `Binary64.ofRatio`, `Binary64.ofDecimal` — the nearest number to a ratio and to a decimal, a tie
  going to the even significand;
* `Binary64.exceeds`, `Binary64.toInt?`, `Binary64.floor?` — exact comparison with integers.
-/

namespace Crontab.Number

-- Powers are those of the core library, wherever this is read.
attribute [local instance (high)] instPowNat

/-- A number of the 64 bit binary floating point format. -/
inductive Binary64
  | nan
  | infinity (negative : Bool)
  | finite (negative : Bool) (exponent : Fin 2047) (fraction : Fin (2 ^ (52 : Nat)))
deriving DecidableEq, Repr

/-- The quotient rounded to the nearest natural number, a tie going to the even one. -/
def roundQuotient (num den : Nat) : Nat :=
  let down := num / den
  let rest := num % den
  if den < 2 * rest || (2 * rest == den && down % 2 == 1) then down + 1 else down

/-- The ratio `num / den * 2 ^ shift` as a numerator and a denominator. -/
def scaleRatio (num den : Nat) (shift : Int) : Nat × Nat :=
  if 0 ≤ shift then (num * 2 ^ shift.toNat, den) else (num, den * 2 ^ (-shift).toNat)

/-- The exponent `e` with `2 ^ e ≤ num / den < 2 ^ (e + 1)`, for positive arguments. -/
def floorLogRatio (num den : Nat) : Int :=
  let guess : Int := (num.log2 : Int) - den.log2
  let (n, d) := scaleRatio num den (-guess)
  if d ≤ n then guess else guess - 1

namespace Binary64

/-- The zero of the given sign. -/
def ofSign (negative : Bool) : Binary64 :=
  .finite negative ⟨0, by decide⟩ ⟨0, by decide⟩

/-- The integer significand of a finite number, by its fields. -/
def significandOf (exponent : Fin 2047) (fraction : Fin (2 ^ (52 : Nat))) : Nat :=
  if exponent.val = 0 then fraction.val else 2 ^ (52 : Nat) + fraction.val

/-- The power of two that scales the integer significand. -/
def scaleOf (exponent : Fin 2047) : Int :=
  if exponent.val = 0 then -1074 else (exponent.val : Int) - 1075

/-- The number `significand * 2 ^ scale` of a significand below `2 ^ 53` that is normalised: at
least `2 ^ 52` unless the scale is the least one.  A scale beyond the greatest gives an infinity. -/
def ofSignificand (negative : Bool) (significand : Nat) (scale : Int) : Binary64 :=
  if h : significand < 2 ^ (52 : Nat) then .finite negative ⟨0, by decide⟩ ⟨significand, h⟩
  else
    let exponent := (scale + 1075).toNat
    if h' : exponent < 2047 then
      .finite negative ⟨exponent, h'⟩
        ⟨(significand - 2 ^ (52 : Nat)) % 2 ^ (52 : Nat), Nat.mod_lt _ (by decide)⟩
    else .infinity negative

/-- The nearest number to `num / den`, a tie going to the even significand. -/
def ofRatio (negative : Bool) (num den : Nat) : Binary64 :=
  if num = 0 then ofSign negative
  else
    let scale := max (floorLogRatio num den - 52) (-1074)
    let (n, d) := scaleRatio num den (-scale)
    let significand := roundQuotient n d
    if significand = 2 ^ (53 : Nat) then ofSignificand negative (2 ^ (52 : Nat)) (scale + 1)
    else ofSignificand negative significand scale

/-- The nearest number to `digits * 10 ^ exponent`.  Decimals far outside the range of the format
are recognised by their number of digits. -/
def ofDecimal (negative : Bool) (digits : Nat) (exponent : Int) : Binary64 :=
  let magnitude : Int := (Nat.toDigits 10 digits).length + exponent
  if digits = 0 || magnitude < -330 then ofSign negative
  else if 310 < magnitude then .infinity negative
  else if 0 ≤ exponent then ofRatio negative (digits * 10 ^ exponent.toNat) 1
  else ofRatio negative digits (10 ^ (-exponent).toNat)

/-- Whether the number is one of the two zeros. -/
def isZero : Binary64 → Bool
  | .finite _ exponent fraction => significandOf exponent fraction == 0
  | _ => false

/-- The integer a finite number without fractional part is equal to. -/
def toInt? : Binary64 → Option Int
  | .finite negative exponent fraction =>
    let (n, d) := scaleRatio (significandOf exponent fraction) 1 (scaleOf exponent)
    if n % d = 0 then
      let size : Int := (n / d : Nat)
      some (if negative then -size else size)
    else none
  | _ => none

/-- The greatest integer that a finite number is not less than. -/
def floor? : Binary64 → Option Int
  | .finite negative exponent fraction =>
    let (n, d) := scaleRatio (significandOf exponent fraction) 1 (scaleOf exponent)
    let size : Int := if negative then -(n : Int) else n
    some (size / (d : Int))
  | _ => none

/-- Whether the number is greater than an integer. -/
def exceeds (x : Binary64) (bound : Int) : Bool :=
  match x with
  | .nan => false
  | .infinity negative => !negative
  | .finite negative exponent fraction =>
    let (n, d) := scaleRatio (significandOf exponent fraction) 1 (scaleOf exponent)
    let size : Int := if negative then -(n : Int) else n
    decide (bound * d < size)

/-- Numerical equality: not-a-number differs from everything, and the two zeros are equal. -/
def equals (x y : Binary64) : Bool :=
  match x, y with
  | .nan, _ => false
  | x, y => x == y || (x.isZero && y.isZero)

end Binary64

end Crontab.Number
