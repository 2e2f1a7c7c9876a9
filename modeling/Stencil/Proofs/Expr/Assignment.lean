import Stencil.Proofs.Expr.Offset
import Stencil.Proofs.Expr.Spelling

/-!
# Assignments

Behind the name and the equals sign of an assignment anything may stand that is an expression on
its own. Where it is none, the fault is that of the expression, further on
(`parseAssignment_assigned`).
-/
namespace Stencil.Expr

/-- What stands before the expression that a name is assigned. -/
def assigned (name : String) : List Char := '$' :: name.toList ++ [' ', '=', ' ']

variable {name : String}

/-- The first token of an assignment is its variable. -/
theorem token_assigned (isName : IsName name) (source : List Char) :
    token '$' (name.toList ++ ' ' :: '=' :: ' ' :: source)
      = .ok (.var [name], ' ' :: '=' :: ' ' :: source) := by
  have names : ∀ part ∈ [name], IsName part := List.forall_mem_singleton.mpr isName
  obtain ⟨first, text, whole, -, read⟩ := readFrom_var (List.cons_ne_nil name []) names
  rw [List.map_singleton, List.intercalate_singleton] at whole
  cases whole
  -- A blank ends a variable.
  apply read
  intro c starts
  cases starts
  exact ends_of_blank _ (by decide)

private theorem token_assign (source : List Char) :
    token '=' (' ' :: source) = .ok (.symbol .assign, ' ' :: source) := by
  obtain ⟨first, text, whole, -, read⟩ := readFrom_symbol .assign
  cases whole
  -- Only a second equals sign would make another symbol.
  apply read
  intro c starts
  cases starts
  exact ends_of_blank _ (by decide)

/-- The tokens of an assignment are the variable, the equals sign, and those of the expression on
its own, further on. -/
theorem tokens_assigned (isName : IsName name) (source : List Char) : ∃ first second,
    tokens (assigned name ++ source)
      = (((tokens source).map (moved (Text.byteSize (assigned name)))).mapError
          (.moved (Text.byteSize (assigned name)))).map
        fun placed => (first, .var [name]) :: (second, .symbol .assign) :: placed := by
  have blank : Text.isBlank ' ' := by decide
  have shape : assigned name ++ source = '$' :: (name.toList ++ ' ' :: '=' :: ' ' :: source) := by
    simp [assigned]
  have further :=
    tokensFrom_add (Text.byteSize (assigned name)) (Nat.le_refl (Text.byteSize source))
  rw [← Text.byteSize_append] at further
  rw [tokens, tokens, ← further]
  generalize Text.byteSize (assigned name ++ source) = size
  -- Two tokens are read, with a blank behind each, and then the tokens of the expression.
  rw [shape, tokensFrom_of_token (by decide) (token_assigned isName source),
    tokensFrom, if_pos blank, tokensFrom_of_token (by decide) (token_assign source),
    tokensFrom, if_pos blank]
  cases tokensFrom size source with
  | error error => exact ⟨0, 0, rfl⟩
  | ok placed => exact ⟨_, _, rfl⟩

/-- An assignment is parsed as its expression is. -/
theorem parseAssignment_eq (isName : IsName name) (source : List Char) :
    parseAssignment (assigned name ++ source)
      = ((parse source).map (name, ·)).mapError (.moved (Text.byteSize (assigned name))) := by
  obtain ⟨first, second, cut⟩ := tokens_assigned isName source
  rw [parseAssignment, cut, parse]
  cases tokens source with
  | error error => rfl
  | ok placed =>
    change (run (Text.byteSize (assigned name ++ source)) (.operand []) (moved _ placed)
      >>= fun expr => pure (name, expr)) = _
    rw [Text.byteSize_append, run_moved]
    change _ = Except.mapError _ (Except.map _ (run (Text.byteSize source) (.operand []) placed))
    cases run (Text.byteSize source) (.operand []) placed <;> rfl

/-- What can be assigned to a name are the expressions: an assignment gives its name and what the
text behind the equals sign is parsed to. Where that text is no expression, the assignment has
the same fault, as much further on as the text is. -/
theorem parseAssignment_assigned (isName : IsName name) (source : List Char) :
    (∀ target expr, parseAssignment (assigned name ++ source) = .ok (target, expr) ↔
      target = name ∧ parse source = .ok expr) ∧
    ∀ position fault, parse source = .error ⟨position, fault⟩ →
      parseAssignment (assigned name ++ source)
        = .error ⟨Text.byteSize (assigned name) + position, fault⟩ := by
  rw [parseAssignment_eq isName]
  constructor
  · intro target expr
    cases parse source with
    | error error => simp [Except.map, Except.mapError]
    | ok parsed => simp [Except.map, Except.mapError, eq_comm]
  · intro position fault failed
    rw [failed]
    rfl

/-- A parenthesis that is not closed, behind a character of two bytes. -/
theorem parseAssignment_assigned_unclosed :
    IsName "9_a" ∧ parse "('é' < $a.0".toList = .error ⟨12, .expectedClose⟩ ∧
      parseAssignment "$9_a = ('é' < $a.0".toList = .error ⟨19, .expectedClose⟩ := by
  have isName : IsName "9_a" := by decide +kernel
  have failed : parse "('é' < $a.0".toList = .error ⟨12, .expectedClose⟩ :=
    error?_eq_some.mp (by decide +kernel)
  have shape : "$9_a = ('é' < $a.0".toList = assigned "9_a" ++ "('é' < $a.0".toList := by
    decide +kernel
  have distance : Text.byteSize (assigned "9_a") = 7 := by decide +kernel
  have moved := (parseAssignment_assigned isName _).2 12 .expectedClose failed
  rw [← shape, distance] at moved
  exact ⟨isName, failed, moved⟩

end Stencil.Expr
