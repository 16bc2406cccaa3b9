import Crontab.Number.Binary64
import Crontab.Text.Numeral

/-!
# Shortest decimal texts

A floating point number is written with the fewest significant digits that read back as the same
number, and of those with the digits nearest to it.

* `Decimal` — a number of significant digits and a power of ten;
* `shortest` — the decimal to write for a finite number: on the grid of 1, 2, … 17 significant
  digits, the nearest of the two neighbours that reads back; failing all grids, the exact value;
* `Binary64.text` — the written form: positional for decimal exponents from -4 to 15, scientific
  with at least two exponent digits outside;
* `Binary64.ofText?` — reads the written form and the usual variants of it.
-/

namespace Crontab.Number

open Crontab.Text

-- Powers are those of the core library, wherever this is read.
attribute [local instance (high)] instPowNat

/-- The number `digits * 10 ^ exponent`. -/
structure Decimal where
  digits : Nat
  exponent : Int
deriving DecidableEq, Repr

/-- The ratio `num / den * 10 ^ shift` as a numerator and a denominator. -/
def scaleDecimal (num den : Nat) (shift : Int) : Nat × Nat :=
  if 0 ≤ shift then (num * 10 ^ shift.toNat, den) else (num, den * 10 ^ (-shift).toNat)

/-- The number `p` of digits before the decimal point, `10 ^ (p - 1) ≤ num / den < 10 ^ p`, for
positive arguments; zero or negative for ratios below one tenth. -/
def pointPosition (num den : Nat) : Int :=
  if den ≤ num then (numeral (num / den)).length
  else
    -- the quotient `den / num` has as many digits as zeros follow the point, or one more
    let zeros : Int := (numeral (den / num)).length - 1
    let (n, d) := scaleDecimal num den zeros
    if d ≤ n then 1 - zeros else -zeros

/-- The two neighbours of `num / den` on the grid of multiples of `10 ^ exponent`, the nearer one
first. -/
def gridNeighbours (num den : Nat) (exponent : Int) : List Decimal :=
  let (n, d) := scaleDecimal num den (-exponent)
  let near := roundQuotient n d
  let far := if near = n / d then near + 1 else n / d
  [⟨near, exponent⟩, ⟨far, exponent⟩]

/-- Whether a decimal reads back as the given number. -/
def Decimal.readsAs (d : Decimal) (x : Binary64) : Bool :=
  Binary64.ofDecimal false d.digits d.exponent == x

/-- The decimal to write for the positive number `x` of value `significand * 2 ^ scale`. -/
def shortest (x : Binary64) (significand : Nat) (scale : Int) : Decimal :=
  let (num, den) := scaleRatio significand 1 scale
  let point := pointPosition num den
  let grids := (List.range 17).flatMap fun (count : Nat) => gridNeighbours num den (point - (count + 1 : Nat))
  match grids.find? (·.readsAs x) with
  | some decimal => decimal
  | none =>
    if 0 ≤ scale then ⟨significand * 2 ^ scale.toNat, 0⟩
    else ⟨significand * 5 ^ (-scale).toNat, scale⟩

/-- A text without its trailing zeros. -/
def trimZeros (text : List Char) : List Char :=
  (text.reverse.dropWhile (· == '0')).reverse

/-- The least decimal exponent that is written positionally. -/
def leastPositional : Int := -4

/-- The first decimal exponent that is written scientifically again. -/
def firstScientific : Int := 16

/-- The text of a positive decimal: positional with at least one digit on both sides of the point,
or scientific with a sign and at least two digits in the exponent. -/
def Decimal.text (d : Decimal) : List Char :=
  let all := numeral d.digits
  let exponent : Int := all.length + d.exponent - 1
  let digits := trimZeros all
  if leastPositional ≤ exponent ∧ exponent < firstScientific then
    if 0 ≤ exponent then
      let whole := (exponent + 1).toNat
      let front := digits.take whole
      let back := digits.drop whole
      front ++ List.replicate (whole - front.length) '0' ++ '.' :: if back.isEmpty then ['0'] else back
    else '0' :: '.' :: (List.replicate (-exponent - 1).toNat '0' ++ digits)
  else
    let front := digits.take 1
    let back := digits.drop 1
    let sign := if exponent < 0 then '-' else '+'
    front ++ (if back.isEmpty then [] else '.' :: back) ++ 'e' :: sign :: padded 2 exponent.natAbs

namespace Binary64

/-- The text of a finite number without its sign. -/
def finiteText (exponent : Fin 2047) (fraction : Fin (2 ^ (52 : Nat))) : List Char :=
  if significandOf exponent fraction = 0 then ['0', '.', '0']
  else (shortest (.finite false exponent fraction) (significandOf exponent fraction)
    (scaleOf exponent)).text

/-- The text of a number: `nan`, `inf`, or the shortest decimal that reads back, with a minus sign
in front of negative ones. -/
def chars : Binary64 → List Char
  | .nan => ['n', 'a', 'n']
  | .infinity negative => (if negative then ['-'] else []) ++ ['i', 'n', 'f']
  | .finite negative exponent fraction =>
    (if negative then ['-'] else []) ++ finiteText exponent fraction

/-- The text of a number. -/
def text (x : Binary64) : String :=
  String.ofList x.chars

/-- The exponent part of a number's text: nothing, or `e` and an integer. -/
def readExponent? : List Char → Option Int
  | [] => some 0
  | mark :: rest =>
    if mark = 'e' ∨ mark = 'E' then
      match rest with
      | '-' :: digits => if isNumeral digits then some (-(numeralValue digits : Int)) else none
      | '+' :: digits => if isNumeral digits then some (numeralValue digits) else none
      | digits => if isNumeral digits then some (numeralValue digits) else none
    else none

/-- The number written as digits with an optional fraction and exponent, of the given sign. -/
def readMagnitude? (negative : Bool) (text : List Char) : Option Binary64 :=
  let whole := text.takeWhile Char.isDigit
  let rest := text.dropWhile Char.isDigit
  let (fraction, rest) :=
    match rest with
    | '.' :: rest => (rest.takeWhile Char.isDigit, rest.dropWhile Char.isDigit)
    | rest => ([], rest)
  if whole.isEmpty && fraction.isEmpty then none
  else
    (readExponent? rest).map fun exponent =>
      ofDecimal negative (numeralValue (whole ++ fraction)) (exponent - fraction.length)

/-- Reads the text of a number: `nan`, `inf`, or a decimal with an optional sign. -/
def ofChars? : List Char → Option Binary64
  | ['n', 'a', 'n'] => some .nan
  | ['i', 'n', 'f'] => some (.infinity false)
  | ['-', 'i', 'n', 'f'] => some (.infinity true)
  | '-' :: rest => readMagnitude? true rest
  | '+' :: rest => readMagnitude? false rest
  | rest => readMagnitude? false rest

/-- Reads the text of a number. -/
def ofText? (text : String) : Option Binary64 :=
  ofChars? text.toList

end Binary64

end Crontab.Number
