/-!
# Binary64 numbers

A finite magnitude is named by its code: the place of the number in the
ascending list of all binary64 magnitudes. Code `s * 2^52 + m` stands for
`m * 2^s` units of `2^-1074`, so codes are ordered as the magnitudes are, and
every magnitude is a natural number of units. Arithmetic is exact on units and
rounds once, to the nearest code, a tie to the even one.
-/
namespace Stencil

/-- Codes come in runs of `2^52` of one scale. -/
def codeRun : Nat := 4503599627370496

/-- The first code past the finite magnitudes. -/
def infinityCode : Nat := 2047 * codeRun

inductive Double where
  | finite (negative : Bool) (code : Fin infinityCode)
  | infinite (negative : Bool)
  | nan
  deriving DecidableEq

namespace Double

/-- Binary orders of magnitude above the least one. -/
def scaleOf (code : Nat) : Nat := code / codeRun - 1

def significandOf (code : Nat) : Nat := code - scaleOf code * codeRun

/-- The magnitude of a code, in units of `2^-1074`. -/
def unitsOf (code : Nat) : Nat := significandOf code <<< scaleOf code

/-- How many units make one: `2^1074`. -/
def one : Nat := 1 <<< 1074

/-- The nearest natural number to a quotient; a tie goes to the even one. -/
def nearest (num den : Nat) : Nat :=
  let floor := num / den
  let twice := 2 * (num % den)
  if twice < den then floor
  else if den < twice then floor + 1
  else if floor % 2 = 0 then floor else floor + 1

/-- The code nearest to `num / den` units. -/
def nearestCode (num den : Nat) : Nat :=
  let scale := (num / den).log2 - 52
  scale * codeRun + nearest num (den <<< scale)

/-- Codes past the finite ones stand for infinity. -/
def ofCode (negative : Bool) (code : Nat) : Double :=
  if finite : code < infinityCode then .finite negative ⟨code, finite⟩ else .infinite negative

/-- The number nearest to `num / den` units, with this sign. -/
def ofUnits (negative : Bool) (num den : Nat) : Double :=
  ofCode negative (nearestCode num den)

def zero (negative : Bool) : Double := .finite negative ⟨0, by decide⟩

instance : Inhabited Double := ⟨zero false⟩

/-- The number nearest to `num / den`. -/
def ofRatio (negative : Bool) (num den : Nat) : Double := ofUnits negative (num * one) den

def ofNat (n : Nat) : Double := ofRatio false n 1

def ofInt (i : Int) : Double := ofRatio (decide (i < 0)) i.natAbs 1

def neg : Double → Double
  | .finite negative code => .finite (!negative) code
  | .infinite negative => .infinite (!negative)
  | .nan => .nan

instance : Neg Double := ⟨neg⟩

/-- A finite number as a signed count of units. -/
def signedUnits (negative : Bool) (code : Nat) : Int :=
  if negative then -(unitsOf code : Int) else unitsOf code

/-- A sum that is exactly zero is negative only if both summands are. -/
def add : Double → Double → Double
  | .finite sa a, .finite sb b =>
    let sum := signedUnits sa a + signedUnits sb b
    if sum = 0 then zero (sa && sb) else ofUnits (decide (sum < 0)) sum.natAbs 1
  | .nan, _ => .nan
  | _, .nan => .nan
  | .infinite sa, .infinite sb => if sa = sb then .infinite sa else .nan
  | .infinite sa, .finite _ _ => .infinite sa
  | .finite _ _, .infinite sb => .infinite sb

instance : Add Double := ⟨add⟩

instance : Sub Double := ⟨fun x y => x + -y⟩

def mul : Double → Double → Double
  | .finite sa a, .finite sb b => ofUnits (sa != sb) (unitsOf a * unitsOf b) one
  | .nan, _ => .nan
  | _, .nan => .nan
  | .infinite sa, .infinite sb => .infinite (sa != sb)
  | .infinite sa, .finite sb b => if b.val = 0 then .nan else .infinite (sa != sb)
  | .finite sa a, .infinite sb => if a.val = 0 then .nan else .infinite (sa != sb)

instance : Mul Double := ⟨mul⟩

def div : Double → Double → Double
  | .finite sa a, .finite sb b =>
    if b.val = 0 then if a.val = 0 then .nan else .infinite (sa != sb)
    else ofUnits (sa != sb) (unitsOf a * one) (unitsOf b)
  | .nan, _ => .nan
  | _, .nan => .nan
  | .infinite _, .infinite _ => .nan
  | .infinite sa, .finite sb _ => .infinite (sa != sb)
  | .finite sa _, .infinite sb => zero (sa != sb)

instance : Div Double := ⟨div⟩

/-- Where a number stands in ascending order; both zeros stand at the same place. -/
def rank? : Double → Option Int
  | .finite negative code => some (if negative then -(code.val : Int) else code.val)
  | .infinite negative => some (if negative then -(infinityCode : Int) else infinityCode)
  | .nan => none

/-- Nothing compares with `nan`. -/
def compare? (x y : Double) : Option Ordering :=
  match x.rank?, y.rank? with
  | some i, some j => some (compare i j)
  | _, _ => none

def lt (x y : Double) : Bool := x.compare? y == some .lt

/-- Numerical equality: the zeros are equal, `nan` equals nothing. -/
def same (x y : Double) : Bool := x.compare? y == some .eq

def isZero (x : Double) : Bool := x.same (zero false)

/-- The integer a finite number is equal to, if it is whole. -/
def toInt? : Double → Option Int
  | .finite negative code =>
    if unitsOf code % one = 0 then
      let magnitude : Int := (unitsOf code / one : Nat)
      some (if negative then -magnitude else magnitude)
    else none
  | _ => none

end Double

end Stencil
