import Stencil.Double.Decimal
import Stencil.Text.Natural
import Stencil.Value

/-!
# JSON numerals

An integer is read exactly if it fits into 64 bits. Any other numeral is read as
a double: the first digits that fit into 64 bits make the significand, the rest
only count towards the exponent, and the significand is multiplied or divided by
a power of ten. That last step rounds once more, so the double can be a
neighbour of the nearest one.
-/
namespace Stencil.Json

/-- Append digits to a significand while it stays below `2^64`; also the digits
left over. -/
def absorb : Nat → List Char → Nat × List Char
  | n, [] => (n, [])
  | n, c :: rest =>
    let next := n * 10 + Text.digitValue c
    if next < Text.limit64 then absorb next rest else (n, c :: rest)

/-- The double nearest to a power of ten. -/
def powerOfTen (exponent : Nat) : Double := .ofDecimal false 1 exponent

/-- Divide by powers of ten in steps of at most `10^308`. -/
def divideByPower (f : Double) (exponent : Nat) : Double :=
  if exponent ≤ 308 then f / powerOfTen exponent
  else if f.isZero then f
  else divideByPower (f / powerOfTen 308) (exponent - 308)
  termination_by exponent

/-- A significand times a power of ten; too large a number is none. -/
def scale? (significand : Nat) (exponent : Int) : Option Double :=
  let f := Double.ofNat significand
  if exponent < 0 then some (divideByPower f exponent.natAbs)
  else if exponent ≤ 308 then
    match f * powerOfTen exponent.natAbs with
    | .finite negative code => some (.finite negative code)
    | _ => none
  else if significand = 0 then some f
  else none

def signed (negative : Bool) (f : Double) : Double := if negative then -f else f

/-- Exponents are read as signed 32-bit numbers, below `2^31`, and stay in their range. -/
def exponentLimit : Nat := 2147483648

def clampExponent (exponent : Int) : Int :=
  max (-(exponentLimit : Int)) (min (exponentLimit - 1) exponent)

/-- A double from its parts. An exponent beyond 32 bits makes zero of a fraction
and of zero, and nothing of any other number. -/
def assemble? (negative : Bool) (significand : Nat) (start : Int) (negativePower : Bool)
    (power : Nat) : Option Double :=
  if power < exponentLimit then
    let exponent := if negativePower then start - power else start + power
    (scale? significand (clampExponent exponent)).map (signed negative)
  else if significand = 0 ∨ negativePower then some (.zero negative)
  else none

/-- An integer, as far as it fits; minus zero is a double. -/
def integer (negative : Bool) (magnitude : Nat) : Number :=
  if !negative then .integer magnitude
  else if 0 < magnitude ∧ magnitude ≤ Text.signedLimit64 then .integer (-(magnitude : Int))
  else .double (signed true (.ofNat magnitude))

/-- A numeral as written: the digits of its parts, and the sign and value of its
exponent. -/
structure Numeral where
  negative : Bool
  whole : List Char
  fraction : Option (List Char)
  exponent : Option (Bool × Nat)

/-- The number a numeral denotes, if it is in range. -/
def Numeral.number? (numeral : Numeral) : Option Number :=
  let (significand, left) := absorb 0 numeral.whole
  match numeral.fraction, numeral.exponent with
  | none, none =>
    if left.isEmpty then some (integer numeral.negative significand)
    else (assemble? numeral.negative significand left.length false 0).map .double
  | fraction, exponent =>
    let digits := fraction.getD []
    let (significand, unread) := absorb significand digits
    let start : Int := left.length - (digits.length - unread.length : Nat)
    let (negativePower, power) := exponent.getD (false, 0)
    (assemble? numeral.negative significand start negativePower power).map .double

/-- The digits a text starts with, and the rest. -/
def splitDigits (text : List Char) : List Char × List Char :=
  (text.takeWhile Char.isDigit, text.dropWhile Char.isDigit)

private theorem splitDigits_length (text : List Char) :
    (splitDigits text).1.length + (splitDigits text).2.length = text.length := by
  rw [← List.length_append, splitDigits, List.takeWhile_append_dropWhile]

/-- Drop the character a text starts with, if it is this one. -/
def dropSign (sign : Char) : List Char → Bool × List Char
  | c :: rest => if c = sign then (true, rest) else (false, c :: rest)
  | [] => (false, [])

private theorem dropSign_length (sign : Char) (text : List Char) :
    (dropSign sign text).2.length ≤ text.length := by
  unfold dropSign; split
  · split <;> simp
  · simp

/-- Without leading zeros. -/
def wholePart (text : List Char) : Option (List Char × List Char) :=
  match splitDigits text with
  | ([], _) => none
  | ('0' :: _ :: _, _) => none
  | parts => some parts

def fractionPart : List Char → Option (Option (List Char) × List Char)
  | '.' :: text =>
    match splitDigits text with
    | ([], _) => none
    | (digits, rest) => some (some digits, rest)
  | text => some (none, text)

def exponentPart : List Char → Option (Option (Bool × Nat) × List Char)
  | c :: text =>
    if c = 'e' ∨ c = 'E' then
      let (negative, unsigned) := dropSign '-' text
      match splitDigits (if negative then unsigned else (dropSign '+' unsigned).2) with
      | ([], _) => none
      | (digits, rest) =>
        some (some (negative, digits.foldl (fun n d => n * 10 + Text.digitValue d) 0), rest)
    else some (none, c :: text)
  | [] => some (none, [])

/-- Cut off the numeral that a text starts with. -/
def numeral? (text : List Char) : Option (Numeral × List Char) := do
  let (negative, text) := dropSign '-' text
  let (whole, text) ← wholePart text
  let (fraction, text) ← fractionPart text
  let (exponent, text) ← exponentPart text
  return (⟨negative, whole, fraction, exponent⟩, text)

private theorem wholePart_shorter {text digits rest : List Char}
    (read : wholePart text = some (digits, rest)) : rest.length < text.length := by
  have total := splitDigits_length text
  unfold wholePart at read
  split at read
  · simp at read
  · simp at read
  next parts nonempty _ =>
    simp only [Option.some.injEq] at read
    cases digits with
    | nil => exact absurd read (nonempty _)
    | cons d digits => simp only [read, List.length_cons] at total; omega

private theorem fractionPart_length {text rest : List Char} {fraction : Option (List Char)}
    (read : fractionPart text = some (fraction, rest)) : rest.length ≤ text.length := by
  unfold fractionPart at read
  split at read
  next tail =>
    have total := splitDigits_length tail
    split at read
    · simp at read
    next digits _ _ split_eq =>
      simp only [Option.some.injEq, Prod.mk.injEq] at read
      simp only [split_eq, read.2] at total
      simp only [List.length_cons]; omega
  · simp_all

private theorem exponentPart_length {text rest : List Char} {exponent : Option (Bool × Nat)}
    (read : exponentPart text = some (exponent, rest)) : rest.length ≤ text.length := by
  unfold exponentPart at read
  split at read
  next c tail =>
    split at read
    · have unsigned := dropSign_length '-' tail
      have positive := dropSign_length '+' (dropSign '-' tail).2
      simp only at read
      split at read
      · simp at read
      next digits after _ split_eq =>
        simp only [Option.some.injEq, Prod.mk.injEq] at read
        have total := congrArg (fun p : List Char × List Char => p.2.length) split_eq
        have bound := splitDigits_length
          (if (dropSign '-' tail).1 = true then (dropSign '-' tail).2
            else (dropSign '+' (dropSign '-' tail).2).2)
        simp only [read.2] at total
        split at bound <;> simp_all <;> omega
    · simp_all
  · simp_all

theorem numeral?_shorter {text rest : List Char} {numeral : Numeral}
    (read : numeral? text = some (numeral, rest)) : rest.length < text.length := by
  simp only [numeral?, Option.bind_eq_bind, Option.bind_eq_some_iff, Option.pure_def,
    Option.some.injEq, Prod.exists, Prod.mk.injEq] at read
  obtain ⟨_, _, whole, _, _, fraction, _, _, exponent, -, rfl⟩ := read
  have sign := dropSign_length '-' text
  have first := wholePart_shorter whole
  have second := fractionPart_length fraction
  have third := exponentPart_length exponent
  omega

end Stencil.Json
