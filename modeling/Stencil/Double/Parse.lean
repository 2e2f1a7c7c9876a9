import Stencil.Double.Decimal
import Stencil.Text.Natural

/-!
# Reading numerals from free text

A sign, digits with or without a point, and an exponent; also the words for
infinity and for what is not a number, in any case.
-/
namespace Stencil.Double

inductive ParseError where
  | empty
  | invalid
  deriving DecidableEq

def ParseError.message : ParseError → String
  | .empty => "cannot parse float from empty string"
  | .invalid => "invalid float literal"

def digitsValue (digits : List Char) : Nat :=
  digits.foldl (fun n d => n * 10 + Text.digitValue d) 0

/-- The exponent a text consists of; an empty text is exponent zero. -/
def exponent? : List Char → Option Int
  | [] => some 0
  | e :: text =>
    if e = 'e' ∨ e = 'E' then
      let (negative, digits) := match text with
        | '-' :: digits => (true, digits)
        | '+' :: digits => (false, digits)
        | digits => (false, digits)
      if digits.isEmpty ∨ !digits.all Char.isDigit then none
      else some (if negative then -(digitsValue digits : Int) else digitsValue digits)
    else none

def unsigned? (negative : Bool) (text : List Char) : Option Double :=
  let whole := text.takeWhile Char.isDigit
  let rest := text.dropWhile Char.isDigit
  let (fraction, rest) := match rest with
    | '.' :: rest => (rest.takeWhile Char.isDigit, rest.dropWhile Char.isDigit)
    | rest => ([], rest)
  if whole.isEmpty ∧ fraction.isEmpty then none
  else (exponent? rest).map fun exponent =>
    ofDecimal negative (digitsValue (whole ++ fraction)) (exponent - fraction.length)

def special? (negative : Bool) (text : List Char) : Option Double :=
  let word := String.ofList (text.map Char.toLower)
  if word = "inf" ∨ word = "infinity" then some (.infinite negative)
  else if word = "nan" then some .nan
  else none

/-- The number nearest to the numeral that a text is. -/
def parse (text : List Char) : Except ParseError Double :=
  if text.isEmpty then .error .empty
  else
    let (negative, magnitude) := match text with
      | '-' :: rest => (true, rest)
      | '+' :: rest => (false, rest)
      | rest => (false, rest)
    match (special? negative magnitude).or (unsigned? negative magnitude) with
    | some d => .ok d
    | none => .error .invalid

end Stencil.Double
