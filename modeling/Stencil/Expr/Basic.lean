import Stencil.Value

/-!
# Expressions

Look-ups, literals and operators.
-/
namespace Stencil

inductive BinaryOp where
  | or
  | and
  | eq
  | ne
  | lt
  | le
  | gt
  | ge
  | add
  | sub
  | concat
  deriving DecidableEq

/-- How tight an operator binds. -/
def BinaryOp.level : BinaryOp → Nat
  | .or => 0
  | .and => 1
  | .eq | .ne | .lt | .le | .gt | .ge => 2
  | .add | .sub | .concat => 3

/-- Comparisons do not chain; all other operators associate to the left. -/
def BinaryOp.chains (op : BinaryOp) : Bool := op.level != 2

inductive Expr where
  | literal (value : Value)
  /-- A variable and the steps into its value; the path is not empty. -/
  | var (path : List String)
  | not (operand : Expr)
  | neg (operand : Expr)
  | binary (op : BinaryOp) (left right : Expr)

/-- Every variable path an expression reads, from left to right. -/
def Expr.paths : Expr → List (List String)
  | .literal _ => []
  | .var path => [path]
  | .not operand => operand.paths
  | .neg operand => operand.paths
  | .binary _ left right => left.paths ++ right.paths

end Stencil
