import Stencil.Double.Basic

/-!
# Dynamic values

The values that expressions compute with, request parameters hold and JSON text
denotes. An integer and a double are different values even where they are
numerically equal. Members of an object are in ascending key order wherever an
object was built by `Value.ofDict` or `Value.canonical`.
-/
namespace Stencil

/-- Integers are exact; `double` holds a finite number. -/
inductive Number where
  | integer (i : Int)
  | double (d : Double)
  deriving DecidableEq

namespace Number

def toDouble : Number → Double
  | .integer i => .ofInt i
  | .double d => d

/-- Integers are equal to integers by value, doubles to doubles numerically. -/
def same : Number → Number → Bool
  | .integer i, .integer j => i == j
  | .double d, .double e => d.same e
  | _, _ => false

end Number

inductive Value where
  | null
  | bool (b : Bool)
  | number (n : Number)
  | string (s : String)
  | array (items : List Value)
  | object (members : List (String × Value))
  deriving Inhabited

namespace Value

def integer (i : Int) : Value := .number (.integer i)

/-- A double as a value; what is not finite has none and becomes `null`. -/
def double : Double → Value
  | .finite negative code => .number (.double (.finite negative code))
  | _ => .null

mutual
/-- Structural equality, numbers by `Number.same`. -/
def same : Value → Value → Bool
  | .null, .null => true
  | .bool a, .bool b => a == b
  | .number a, .number b => a.same b
  | .string a, .string b => a == b
  | .array a, .array b => sameItems a b
  | .object a, .object b => sameMembers a b
  | _, _ => false

def sameItems : List Value → List Value → Bool
  | [], [] => true
  | a :: as, b :: bs => same a b && sameItems as bs
  | _, _ => false

def sameMembers : List (String × Value) → List (String × Value) → Bool
  | [], [] => true
  | (j, a) :: as, (k, b) :: bs => j == k && same a b && sameMembers as bs
  | _, _ => false
end

mutual
/-- How deep arrays and objects are nested in a value. -/
def depth : Value → Nat
  | .array items => depthOfItems items + 1
  | .object members => depthOfMembers members + 1
  | _ => 0

def depthOfItems : List Value → Nat
  | [] => 0
  | v :: rest => max (depth v) (depthOfItems rest)

def depthOfMembers : List (String × Value) → Nat
  | [] => 0
  | (_, v) :: rest => max (depth v) (depthOfMembers rest)
end

end Value

end Stencil
