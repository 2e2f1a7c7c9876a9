import Stencil.Expr.Basic
import Stencil.Value.Coercion

/-!
# Evaluating expressions

Evaluation never fails: what a scope does not know is null, and what is no number
counts as zero.
-/
namespace Stencil

/-- The values of variables, by path. -/
abbrev Scope := List String → Option Value

/-- The scope of the members of one object. -/
def Scope.ofDict (values : Dict Value) : Scope
  | [] => none
  | name :: rest => (values.get? name).bind fun value => value.lookupPath rest

namespace Expr

/-- The number an operand of arithmetic counts as. -/
def operandNumber (value : Value) : Double := value.toDouble?.getD (.zero false)

def applyBinary : BinaryOp → Value → Value → Value
  | .or, x, y => .bool (x.truthy || y.truthy)
  | .and, x, y => .bool (x.truthy && y.truthy)
  | .eq, x, y => .bool (x.looseEq y)
  | .ne, x, y => .bool (!x.looseEq y)
  | .lt, x, y => .bool (x.looseCompare y == .lt)
  | .le, x, y => .bool (x.looseCompare y != .gt)
  | .gt, x, y => .bool (x.looseCompare y == .gt)
  | .ge, x, y => .bool (x.looseCompare y != .lt)
  | .add, x, y => .ofDouble (operandNumber x + operandNumber y)
  | .sub, x, y => .ofDouble (operandNumber x - operandNumber y)
  | .concat, x, y => .string (x.text ++ y.text)

def eval (scope : Scope) : Expr → Value
  | .literal value => value
  | .var path => (scope path).getD .null
  | .not operand => .bool (!(operand.eval scope).truthy)
  | .neg operand => .ofDouble (-operandNumber (operand.eval scope))
  | .binary op left right => applyBinary op (left.eval scope) (right.eval scope)

end Expr

end Stencil
