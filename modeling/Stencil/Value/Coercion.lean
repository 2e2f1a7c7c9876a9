import Stencil.Double.Parse
import Stencil.Json.Writer
import Stencil.Text.Blank
import Stencil.Value.Object

/-!
# Coercions and loose comparison

How values count as truth, as text and as numbers, and how values of different
kinds compare: numerically if both are numeric, as texts otherwise.
-/
namespace Stencil.Value

/-- Null, false, zero, the texts `""` and `"0"` and empty collections are false. -/
def truthy : Value → Bool
  | .null => false
  | .bool b => b
  | .number n => !n.toDouble.isZero
  | .string s => !(s == "" || s == "0")
  | .array items => !items.isEmpty
  | .object members => !members.isEmpty

/-- The text a value prints as. Collections print as JSON. -/
def text : Value → String
  | .null => ""
  | .bool b => if b then "1" else ""
  | .number n => String.ofList n.text
  | .string s => s
  | collection => Json.text collection

/-- The number a value counts as. -/
def toDouble? : Value → Option Double
  | .null => some (.zero false)
  | .bool b => some (.ofNat (if b then 1 else 0))
  | .number n => some n.toDouble
  | .string s => (Double.parse (Text.trim s.toList)).toOption
  | _ => none

/-- Blank texts do not count as numbers here. -/
def numeric? : Value → Option Double
  | .string s => if (Text.trim s.toList).isEmpty then none else (Value.string s).toDouble?
  | v => v.toDouble?

/-- A number as a value: an integer if it is whole and below `2^63` in magnitude. -/
def ofDouble (d : Double) : Value :=
  match d.toInt? with
  | some i => if i.natAbs < Text.signedLimit64 then .integer i else .double d
  | none => .double d

def looseCompare (a b : Value) : Ordering :=
  match a.numeric?, b.numeric? with
  | some x, some y => (x.compare? y).getD .eq
  | _, _ => compareOfLessAndEq a.text b.text

def isCollection : Value → Bool
  | .array _ | .object _ => true
  | _ => false

/-- Collections are only equal to structurally equal ones. -/
def looseEq (a b : Value) : Bool :=
  if a.isCollection || b.isCollection then a.same b else a.looseCompare b == .eq

end Stencil.Value
