/-!
# Decimal natural numbers

Reading a bounded natural number: digits, with a `+` before them if one likes.
-/
namespace Stencil.Text

inductive NaturalError where
  | empty
  | invalidDigit
  | tooLarge
  deriving DecidableEq

def NaturalError.message : NaturalError → String
  | .empty => "cannot parse integer from empty string"
  | .invalidDigit => "invalid digit found in string"
  | .tooLarge => "number too large to fit in target type"

/-- The numeric value of an ASCII digit. -/
def digitValue (c : Char) : Nat := c.toNat - '0'.toNat

/-- Read digits onto a number. The first fault from the left is reported. -/
def readDigits (limit : Nat) : Nat → List Char → Except NaturalError Nat
  | n, [] => .ok n
  | n, c :: rest =>
    if !c.isDigit then .error .invalidDigit
    else
      let next := n * 10 + digitValue c
      if next < limit then readDigits limit next rest else .error .tooLarge

/-- A natural number below `limit`. A sign alone is no digit. -/
def natural (limit : Nat) : List Char → Except NaturalError Nat
  | [] => .error .empty
  | ['+'] => .error .invalidDigit
  | '+' :: rest => readDigits limit 0 rest
  | text => readDigits limit 0 text

/-- Natural numbers of 64 bits are below `2^64`. -/
def limit64 : Nat := 18446744073709551616

/-- Signed integers of 64 bits are below `2^63`. -/
def signedLimit64 : Nat := 9223372036854775808

/-- Natural numbers of 64 bits. -/
def natural64 : List Char → Except NaturalError Nat := natural limit64

end Stencil.Text
