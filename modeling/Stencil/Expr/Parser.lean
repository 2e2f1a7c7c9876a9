import Stencil.Expr.Token

/-!
# Parsing expressions

The parser goes through the tokens once. What is not finished waits on a stack:
operators that lack their right operand and open parentheses. A token is refused
as soon as no expression can go on with it, so an error is always about the first
such token, or about the end of the text.
-/
namespace Stencil.Expr

/-- The binary operators the symbols stand for. -/
def Symbol.binary? : Symbol → Option BinaryOp
  | .or => some .or
  | .and => some .and
  | .eq => some .eq
  | .ne => some .ne
  | .le => some .le
  | .ge => some .ge
  | .lt => some .lt
  | .gt => some .gt
  | .plus => some .add
  | .minus => some .sub
  | .tilde => some .concat
  | .bang | .assign => none

/-- What waits for an operand to be finished. -/
inductive Frame where
  | not
  | neg
  | paren
  | binary (op : BinaryOp) (left : Expr)

/-- Either an operand has to follow, or one is there and an operator may follow.
The innermost frame comes first. -/
inductive State where
  | operand (stack : List Frame)
  | operator (expr : Expr) (stack : List Frame)

/-- Apply the prefix operators that wait for an operand. -/
def settle (expr : Expr) : List Frame → State
  | .not :: stack => settle (.not expr) stack
  | .neg :: stack => settle (.neg expr) stack
  | stack => .operator expr stack

/-- Apply the binary operators of this level and tighter ones that wait for their
right operand. -/
def complete (level : Nat) (expr : Expr) : List Frame → Expr × List Frame
  | .binary op left :: stack =>
    if level ≤ op.level then complete level (.binary op left expr) stack
    else (expr, .binary op left :: stack)
  | stack => (expr, stack)

def isParen : Frame → Bool
  | .paren => true
  | _ => false

/-- What is wrong with a token that does not go on behind an operand. -/
def refusal (stack : List Frame) : Fault :=
  if stack.any isParen then .expectedClose else .trailing

/-- Whether an operator of the same level that does not chain waits already. -/
def blocked (op : BinaryOp) : List Frame → Bool
  | .binary waiting _ :: _ => !op.chains && waiting.level == op.level
  | _ => false

/-- A binary operator behind an operand. -/
def infixStep (op : BinaryOp) (expr : Expr) (stack : List Frame) : Except Fault State :=
  let (left, rest) := complete (if op.chains then op.level else op.level + 1) expr stack
  if blocked op rest then .error (refusal rest) else .ok (.operand (.binary op left :: rest))

def step : State → Token → Except Fault State
  | .operand stack, .var path => .ok (settle (.var path) stack)
  | .operand stack, .str s => .ok (settle (.literal (.string s)) stack)
  | .operand stack, .int n => .ok (settle (.literal (.integer n)) stack)
  | .operand stack, .name "true" => .ok (settle (.literal (.bool true)) stack)
  | .operand stack, .name "false" => .ok (settle (.literal (.bool false)) stack)
  | .operand stack, .name "null" => .ok (settle (.literal .null) stack)
  | .operand _, .name _ => .error .bareName
  | .operand stack, .symbol .bang => .ok (.operand (.not :: stack))
  | .operand stack, .symbol .minus => .ok (.operand (.neg :: stack))
  | .operand stack, .openParen => .ok (.operand (.paren :: stack))
  | .operand _, _ => .error .expectedValue
  | .operator expr stack, .symbol symbol =>
    match symbol.binary? with
    | some op => infixStep op expr stack
    | none => .error (refusal stack)
  | .operator expr stack, .closeParen =>
    match complete 0 expr stack with
    | (inner, .paren :: outer) => .ok (settle inner outer)
    | (_, rest) => .error (refusal rest)
  | .operator _ stack, _ => .error (refusal stack)

/-- The expression, when there are no more tokens. -/
def finish : State → Except Fault Expr
  | .operand _ => .error .unexpectedEnd
  | .operator expr stack =>
    match complete 0 expr stack with
    | (expr, []) => .ok expr
    | (_, rest) => .error (refusal rest)

/-- Go on with tokens up to the end of a text of `size` bytes. -/
def run (size : Nat) : State → List (Nat × Token) → Except ParseError Expr
  | state, [] => (finish state).mapError (⟨size, ·⟩)
  | state, (position, token) :: rest =>
    match step state token with
    | .ok state => run size state rest
    | .error fault => .error ⟨position, fault⟩

/-- Parse a complete expression. -/
def parse (text : List Char) : Except ParseError Expr := do
  run (Text.byteSize text) (.operand []) (← tokens text)

/-- Parse `$name = expression`. -/
def parseAssignment (text : List Char) : Except ParseError (String × Expr) := do
  match ← tokens text with
  | (_, .var [name]) :: (_, .symbol .assign) :: rest =>
    return (name, ← run (Text.byteSize text) (.operand []) rest)
  | _ => throw ⟨0, .notAssignment⟩

end Stencil.Expr
