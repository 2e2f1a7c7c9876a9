import Stencil.Expr.Parser

/-!
# The grammar of expressions

`Derives category tokens expr` says that the tokens are an expression of a category. The
parser accepts exactly what the grammar derives (`parse_accepts`).
-/
namespace Stencil.Expr

/-- The levels of expressions, from the loosest to the tightest. -/
inductive Category where
  | or
  | and
  | comparison
  | additive
  | unary
  | primary
  deriving DecidableEq

namespace Category

/-- What the operands of a level are. -/
def next : Category → Category
  | .or => .and
  | .and => .comparison
  | .comparison => .additive
  | .additive => .unary
  | .unary | .primary => .primary

/-- The symbols between operands of a level, with what they stand for. -/
def operators : Category → List (Symbol × BinaryOp)
  | .or => [(.or, .or)]
  | .and => [(.and, .and)]
  | .comparison => [(.eq, .eq), (.ne, .ne), (.le, .le), (.ge, .ge), (.lt, .lt), (.gt, .gt)]
  | .additive => [(.plus, .add), (.minus, .sub), (.tilde, .concat)]
  | .unary | .primary => []

/-- What stands to the left of an operator of a level: what the operators before it have
made, or a single operand where operators do not repeat. -/
def left : Category → Category
  | .comparison => .additive
  | category => category

/-- How tight a category binds. -/
def rank : Category → Nat
  | .or => 0
  | .and => 1
  | .comparison => 2
  | .additive => 3
  | .unary => 4
  | .primary => 5

end Category

/-- The tokens of a category and the expression they stand for. -/
inductive Derives : Category → List Token → Expr → Prop where
  /-- An operand alone. -/
  | operand {category : Category} {ts : List Token} {expr : Expr} :
      Derives category.next ts expr → Derives category ts expr
  /-- One operand more. All levels but that of comparisons repeat and associate to the left. -/
  | binary {category : Category} {symbol : Symbol} {op : BinaryOp} {ts us : List Token}
      {left right : Expr} : (symbol, op) ∈ category.operators →
      Derives category.left ts left → Derives category.next us right →
      Derives category (ts ++ .symbol symbol :: us) (.binary op left right)
  | not {ts : List Token} {expr : Expr} :
      Derives .unary ts expr → Derives .unary (.symbol .bang :: ts) (.not expr)
  | neg {ts : List Token} {expr : Expr} :
      Derives .unary ts expr → Derives .unary (.symbol .minus :: ts) (.neg expr)
  | var (path : List String) : Derives .primary [.var path] (.var path)
  | string (s : String) : Derives .primary [.str s] (.literal (.string s))
  | integer (n : Nat) : Derives .primary [.int n] (.literal (.integer n))
  | true : Derives .primary [.name "true"] (.literal (.bool Bool.true))
  | false : Derives .primary [.name "false"] (.literal (.bool Bool.false))
  | null : Derives .primary [.name "null"] (.literal .null)
  | paren {ts : List Token} {expr : Expr} :
      Derives .or ts expr → Derives .primary (.openParen :: ts ++ [.closeParen]) expr

/-- The category of the expressions an operator makes. -/
def category : BinaryOp → Category
  | .or => .or
  | .and => .and
  | .eq | .ne | .lt | .le | .gt | .ge => .comparison
  | .add | .sub | .concat => .additive

/-! ### Levels -/

theorem rank_category (op : BinaryOp) : (category op).rank = op.level := by
  cases op <;> rfl

theorem rank_next_category (op : BinaryOp) : (category op).next.rank = op.level + 1 := by
  cases op <;> rfl

theorem level_lt (op : BinaryOp) : op.level < Category.unary.rank := by
  cases op <;> decide

/-- What stands to the left of an operator binds as tight as it is completed before the
operator is read. -/
theorem rank_left_category (op : BinaryOp) :
    (category op).left.rank = if op.chains then op.level else op.level + 1 := by
  cases op <;> rfl

namespace Category

theorem mem_operators {category : Category} {symbol : Symbol} {op : BinaryOp} :
    (symbol, op) ∈ category.operators ↔ symbol.binary? = some op ∧ Expr.category op = category := by
  constructor
  · intro member
    cases category <;> simp only [operators, List.mem_cons, List.not_mem_nil, Prod.mk.injEq,
      or_false] at member
    case or | and =>
      obtain ⟨rfl, rfl⟩ := member
      exact ⟨rfl, rfl⟩
    case comparison =>
      rcases member with ⟨rfl, rfl⟩ | ⟨rfl, rfl⟩ | ⟨rfl, rfl⟩ | ⟨rfl, rfl⟩ | ⟨rfl, rfl⟩ |
        ⟨rfl, rfl⟩ <;> exact ⟨rfl, rfl⟩
    case additive =>
      rcases member with ⟨rfl, rfl⟩ | ⟨rfl, rfl⟩ | ⟨rfl, rfl⟩ <;> exact ⟨rfl, rfl⟩
  · rintro ⟨read, rfl⟩
    cases symbol <;> cases read <;> decide

end Category

/-- An expression also is one of every looser category. -/
theorem Derives.loosen {category looser : Category} {ts : List Token} {expr : Expr}
    (derives : Derives category ts expr) (below : looser.rank ≤ category.rank) :
    Derives looser ts expr := by
  by_cases same : looser = category
  · exact same ▸ derives
  · have step : looser.next.rank ≤ category.rank := by
      cases looser <;> cases category <;> simp_all [Category.next, Category.rank]
    exact .operand (derives.loosen step)
  termination_by category.rank - looser.rank
  decreasing_by cases looser <;> cases category <;> simp_all [Category.next, Category.rank]

end Stencil.Expr
