import Stencil.Double.Basic

/-!
# Decimal text of binary64 numbers

`ofDecimal` reads a decimal correctly rounded. `shortest` chooses the digits a
number is written with: the fewest that read back as the number, of those the
nearest to it, of two equally near ones the one that ends in an even digit.
`Double.text` lays the digits out.
-/
namespace Stencil.Double

/-- `10^n`. -/
def tenPower (n : Nat) : Nat := Nat.pow 10 n

/-- The number nearest to `digits * 10^exponent`. Far outside the range of the
finite numbers the power is not computed. -/
def ofDecimal (negative : Bool) (digits : Nat) (exponent : Int) : Double :=
  if digits = 0 then zero negative
  else if 400 < exponent then .infinite negative
  else if (digits.log2 : Int) + 3 * exponent < -1100 then zero negative
  else if 0 ≤ exponent then ofRatio negative (digits * tenPower exponent.toNat) 1
  else ofRatio negative digits (tenPower (-exponent).toNat)

/-- The finite code nearest to `digits * 10^exponent`. -/
def codeOfDecimal (digits : Nat) (exponent : Int) : Nat :=
  if 0 ≤ exponent then nearestCode (digits * tenPower exponent.toNat * one) 1
  else nearestCode (digits * one) (tenPower (-exponent).toNat)

/-- Decimal digits of a natural number, the most significant first. -/
def digitsOf (n : Nat) : List Char := Nat.toDigits 10 n

/-- The largest `e` with `10^e ≤ units`, for a positive number of units of one. -/
def decimalExponent (units : Nat) : Int :=
  if one ≤ units then ((digitsOf (units / one)).length : Int) - 1
  else
    let inverse := (one + units - 1) / units
    Int.negOfNat (digitsOf (inverse - 1)).length

/-- The two neighbours of a magnitude on the decimal grid of step `10^step`, the
nearer one first and of two equally near ones the even one. -/
def gridNeighbours (units : Nat) (step : Int) : List Nat :=
  let num := if 0 ≤ step then units else units * tenPower (-step).toNat
  let den := if 0 ≤ step then one * tenPower step.toNat else one
  let floor := num / den
  if nearest num den = floor then [floor, floor + 1] else [floor + 1, floor]

/-- The first decimal with at most `fuel` more digits that reads back as the code. -/
def shortestFrom (code : Nat) (exponent : Int) : Nat → Nat → Nat × Int
  | 0, _ => (unitsOf code, 0)
  | fuel + 1, digits =>
    let step := exponent - digits
    match (gridNeighbours (unitsOf code) step).find? fun m => codeOfDecimal m step = code with
    | some m => (m, step)
    | none => shortestFrom code exponent fuel (digits + 1)

/-- Digits `m` and power `e` of the shortest decimal `m * 10^e` that reads back as
the magnitude. Seventeen digits always do. -/
def shortest (code : Nat) : Nat × Int :=
  shortestFrom code (decimalExponent (unitsOf code)) 17 0

/-- Where positional notation ends and what both notations look like: powers of ten
from `least` to `greatest` are written out, always with a digit after the point. -/
structure Layout where
  least : Int
  greatest : Int

/-- Numbers from `10^-5` up to `10^16` are written out. -/
def layout : Layout := ⟨-5, 15⟩

def zeros (n : Nat) : List Char := List.replicate n '0'

/-- Drop the zeros a number's digits end in. -/
def trimZeros (digits : List Char) : List Char :=
  (digits.reverse.dropWhile (· = '0')).reverse

/-- Write `0.d₁d₂… * 10^(exponent+1)` for digits without trailing zeros. -/
def layOut (digits : List Char) (exponent : Int) : List Char :=
  if exponent < layout.least ∨ layout.greatest < exponent then
    let mantissa := match digits with
      | [] => ['0']
      | [d] => [d]
      | d :: rest => d :: '.' :: rest
    let sign := if exponent < 0 then '-' else '+'
    mantissa ++ 'e' :: sign :: digitsOf exponent.natAbs
  else if exponent < 0 then
    '0' :: '.' :: zeros (-exponent - 1).toNat ++ digits
  else
    let whole := exponent.toNat + 1
    let point := if whole < digits.length then digits.drop whole else ['0']
    digits.take whole ++ zeros (whole - digits.length) ++ '.' :: point

/-- The text of a magnitude. -/
def magnitudeText (code : Nat) : List Char :=
  if code = 0 then ['0', '.', '0']
  else
    let (m, e) := shortest code
    let digits := digitsOf m
    layOut (trimZeros digits) (e + digits.length - 1)

/-- The text of a finite number; the others have none. -/
def text? : Double → Option (List Char)
  | .finite negative code =>
    some (if negative then '-' :: magnitudeText code else magnitudeText code)
  | _ => none

end Stencil.Double
