import Stencil.Proofs.Expr.Grammar
import Stencil.Proofs.Related

/-!
# The parser and its grammar

The stack of the parser is what the grammar has to go on with behind the tokens read so
far. From this the parser only accepts what the grammar derives, and it reads whatever
the grammar derives.
-/
namespace Stencil.Expr

/-! ### The stack -/

/-- The innermost frame can take an expression of this level for its operand. -/
def Fits (level : Nat) : List Frame → Prop
  | .binary op _ :: _ => op.level < level
  | .not :: _ | .neg :: _ => False
  | _ => True

theorem Fits.mono {level higher : Nat} {stack : List Frame} (fits : Fits level stack)
    (above : level ≤ higher) : Fits higher stack := by
  cases stack with
  | nil => trivial
  | cons frame stack =>
    cases frame with
    | binary op left => exact Nat.lt_of_lt_of_le fits above
    | paren => trivial
    | not | neg => exact fits

private theorem settle_of_fits {level : Nat} {stack : List Frame} (fits : Fits level stack)
    (expr : Expr) : settle expr stack = .operator expr stack := by
  cases stack with
  | nil => rfl
  | cons frame stack =>
    cases frame with
    | binary | paren => rfl
    | not | neg => exact fits.elim

/-- Where an expression fits nothing waits to be completed. -/
private theorem complete_of_fits {level : Nat} {stack : List Frame} (fits : Fits level stack)
    (expr : Expr) : complete level expr stack = (expr, stack) := by
  cases stack with
  | nil => rfl
  | cons frame stack =>
    cases frame with
    | binary op left => rw [complete, if_neg (Nat.not_le.mpr fits)]
    | paren => rfl
    | not | neg => rfl

private theorem complete_binary {level : Nat} {op : BinaryOp} (within : level ≤ op.level)
    (left expr : Expr) (stack : List Frame) :
    complete level expr (.binary op left :: stack) = complete level (.binary op left expr) stack := by
  rw [complete, if_pos within]

/-- To complete a tight level first makes no difference to a looser one. -/
private theorem complete_complete {level higher : Nat} (above : level ≤ higher) (expr : Expr)
    (stack : List Frame) :
    complete level (complete higher expr stack).1 (complete higher expr stack).2
      = complete level expr stack := by
  -- Whatever binds as tight as the higher level also binds as tight as the lower one.
  fun_induction complete higher expr stack with
  | case1 expr op left stack within ih =>
    rw [ih, complete_binary (Nat.le_trans above within)]
  | case2 => rfl
  | case3 => rfl

private theorem blocked_of_fits {op : BinaryOp} {stack : List Frame} (fits : Fits op.level stack) :
    blocked op stack = false := by
  cases stack with
  | nil => rfl
  | cons frame stack =>
    cases frame with
    | binary waiting left => simp [blocked, Nat.ne_of_lt fits]
    | _ => rfl

/-- Behind what does not bind tighter than itself, an operator that is not blocked fits. -/
private theorem fits_of_not_blocked {op : BinaryOp} {stack : List Frame}
    (fits : Fits (if op.chains then op.level else op.level + 1) stack)
    (free : blocked op stack = false) : Fits op.level stack := by
  cases stack with
  | nil => trivial
  | cons frame stack =>
    cases frame with
    | binary waiting left =>
      -- Only an operator that does not chain can find one of its own level, and that blocks it.
      cases chains : op.chains with
      | true => simpa [chains] using fits
      | false =>
        have other : waiting.level ≠ op.level := by simpa [blocked, chains] using free
        have near : waiting.level < op.level + 1 := by simpa [chains, Fits] using fits
        exact Nat.lt_of_le_of_ne (Nat.le_of_lt_succ near) other
    | paren => trivial
    | not | neg => exact fits

private theorem infixStep_of_complete {op : BinaryOp} {expr left : Expr} {stack rest : List Frame}
    (whole : complete (category op).left.rank expr stack = (left, rest)) :
    infixStep op expr stack =
      if blocked op rest then .error (refusal rest) else .ok (.operand (.binary op left :: rest)) := by
  rw [infixStep, ← rank_left_category, whole]

/-! ### What the grammar derives is read -/

/-- What reading the tokens of a category comes to. The operand of a prefix operator is
taken at once; otherwise operators of the level may still have to be completed. -/
structure ReadAs (category : Category) (ts : List Token) (expr : Expr) : Prop where
  settled : Category.unary.rank ≤ category.rank → ∀ stack,
    ts.foldlM step (.operand stack) = .ok (settle expr stack)
  completed : ∀ stack, Fits category.rank stack → ∃ last rest,
    ts.foldlM step (.operand stack) = .ok (.operator last rest) ∧
      complete category.rank last rest = (expr, stack)

namespace ReadAs

variable {category : Category} {ts us : List Token} {expr left right : Expr}

private theorem of_settled
    (settled : ∀ stack, ts.foldlM step (.operand stack) = .ok (settle expr stack)) :
    ReadAs category ts expr := by
  refine ⟨fun _ => settled, ?_⟩
  intro stack fits
  refine ⟨expr, stack, ?_, complete_of_fits fits expr⟩
  rw [settled, settle_of_fits fits]

theorem operand (read : ReadAs category.next ts expr) : ReadAs category ts expr := by
  by_cases tight : Category.unary.rank ≤ category.rank
  · refine .of_settled (read.settled ?_)
    cases category <;> simp_all [Category.rank, Category.next]
  · refine ⟨fun contrary => absurd contrary tight, ?_⟩
    intro stack fits
    have above : category.rank ≤ category.next.rank := by
      cases category <;> decide
    obtain ⟨last, rest, ran, whole⟩ := read.completed stack (fits.mono above)
    -- Nothing of the looser level is on the stack, so there is nothing more to complete.
    refine ⟨last, rest, ran, ?_⟩
    have same := complete_complete above last rest
    rwa [whole, complete_of_fits fits, eq_comm] at same

/-- An operator completes what is to its left and waits for its right operand. -/
theorem binary {symbol : Symbol} {op : BinaryOp} (isOperator : (symbol, op) ∈ category.operators)
    (first : ReadAs category.left ts left) (second : ReadAs category.next us right) :
    ReadAs category (ts ++ .symbol symbol :: us) (.binary op left right) := by
  obtain ⟨read, rfl⟩ := Category.mem_operators.mp isOperator
  have loose : ¬ Category.unary.rank ≤ (category op).rank := by
    rw [rank_category]
    exact Nat.not_le.mpr (level_lt op)
  refine ⟨fun contrary => absurd contrary loose, ?_⟩
  intro stack fits
  rw [rank_category] at fits ⊢
  have waits : Fits (category op).next.rank (.binary op left :: stack) := by
    rw [rank_next_category]
    exact Nat.lt_succ_self op.level
  have fitsLeft : Fits (category op).left.rank stack := by
    refine fits.mono ?_
    rw [rank_left_category]
    split <;> omega
  -- The right operand is read with the operator on the stack, which takes it when completed.
  obtain ⟨last, rest, ran, whole⟩ := first.completed stack fitsLeft
  obtain ⟨last', rest', ran', whole'⟩ := second.completed _ waits
  rw [rank_next_category] at whole'
  have stepped : step (.operator last rest) (.symbol symbol)
      = .ok (.operand (.binary op left :: stack)) := by
    simp [step, read, infixStep_of_complete whole, blocked_of_fits fits]
  refine ⟨last', rest', ?_, ?_⟩
  · rw [List.foldlM_append, ran]
    change (step _ _ >>= _) = _
    rw [stepped]
    exact ran'
  · rw [← complete_complete (Nat.le_succ op.level), whole', complete_binary (Nat.le_refl _),
      complete_of_fits fits]

/-- Parentheses make an operand of any expression. -/
theorem paren (inner : ReadAs .or ts expr) :
    ReadAs .primary (.openParen :: ts ++ [.closeParen]) expr := by
  refine .of_settled ?_
  intro stack
  -- The open parenthesis keeps the inner expression apart from what is below it.
  obtain ⟨last, rest, ran, whole⟩ := inner.completed (.paren :: stack) trivial
  have closes : step (.operator last rest) .closeParen = .ok (settle expr stack) := by
    have whole : complete 0 last rest = (expr, .paren :: stack) := whole
    rw [step, whole]
  rw [List.cons_append, List.foldlM_cons]
  change (ts ++ [Token.closeParen]).foldlM step (.operand (.paren :: stack)) = _
  rw [List.foldlM_append, ran]
  change (step _ _ >>= _) = _
  rw [closes]
  rfl

end ReadAs

/-- The parser reads all that the grammar derives. -/
theorem Derives.readAs {category : Category} {ts : List Token} {expr : Expr}
    (derives : Derives category ts expr) : ReadAs category ts expr := by
  induction derives with
  | operand _ ih => exact ih.operand
  | binary isOperator _ _ first second => exact .binary isOperator first second
  | not _ ih => exact .of_settled fun stack => ih.settled (Nat.le_refl _) (.not :: stack)
  | neg _ ih => exact .of_settled fun stack => ih.settled (Nat.le_refl _) (.neg :: stack)
  | paren _ ih => exact ih.paren
  | var | string | integer | true | false | null => exact .of_settled fun stack => rfl

/-! ### What is read the grammar derives -/

/-- Behind these tokens an expression of this category has to follow, and the stack has
kept what it will be part of. -/
inductive Opens : Category → List Frame → List Token → Prop where
  | nil : Opens .or [] []
  | not {category : Category} {stack : List Frame} {ts : List Token} :
      Opens category stack ts → Opens .unary (.not :: stack) (ts ++ [.symbol .bang])
  | neg {category : Category} {stack : List Frame} {ts : List Token} :
      Opens category stack ts → Opens .unary (.neg :: stack) (ts ++ [.symbol .minus])
  | paren {category : Category} {stack : List Frame} {ts : List Token} :
      Opens category stack ts → Opens .or (.paren :: stack) (ts ++ [.openParen])
  | binary {outer : Category} {stack : List Frame} {ts us : List Token} {symbol : Symbol}
      {op : BinaryOp} {left : Expr} : Opens outer stack ts → outer.rank ≤ op.level →
      symbol.binary? = some op → Derives (category op).left us left →
      Opens (category op).next (.binary op left :: stack) (ts ++ us ++ [.symbol symbol])

namespace Opens

variable {category : Category} {stack : List Frame} {ts : List Token}

private theorem rank_le (opens : Opens category stack ts) {level : Nat} (fits : Fits level stack) :
    category.rank ≤ level := by
  cases opens with
  | nil | paren => exact Nat.zero_le level
  | not | neg => exact fits.elim
  | binary =>
    rw [rank_next_category]
    exact fits

theorem fits (opens : Opens category stack ts) {op : BinaryOp} (within : category.rank ≤ op.level) :
    Fits op.level stack := by
  cases opens with
  | nil | paren => trivial
  | not | neg => exact absurd (level_lt op) (Nat.not_lt.mpr within)
  | binary =>
    rw [rank_next_category] at within
    exact within

/-- What is completed fits what is left of the stack. -/
theorem complete (opens : Opens category stack ts) {tight : Category} {us : List Token}
    {expr : Expr} (fits : Fits Category.unary.rank stack) (within : category.rank ≤ tight.rank)
    (derives : Derives tight us expr) {looser : Category} (below : looser.rank ≤ tight.rank) :
    ∃ outer before inner, Opens outer (Expr.complete looser.rank expr stack).2 before ∧
      Derives looser inner (Expr.complete looser.rank expr stack).1 ∧
      before ++ inner = ts ++ us ∧
      (looser.rank ≤ Category.unary.rank →
        Fits looser.rank (Expr.complete looser.rank expr stack).2) := by
  -- The tokens of a completed operator are those of its operands around its symbol.
  induction stack generalizing category ts tight us expr with
  | nil => exact ⟨category, ts, us, opens, derives.loosen below, rfl, fun _ => trivial⟩
  | cons frame stack ih =>
    cases opens with
    | not | neg => exact fits.elim
    | paren opens => exact ⟨_, _, us, opens.paren, derives.loosen below, rfl, fun _ => trivial⟩
    | @binary outer _ ts' vs symbol op left opens around isOperator before =>
      by_cases waits : looser.rank ≤ op.level
      · rw [complete_binary waits]
        have whole : Derives (Expr.category op) (vs ++ .symbol symbol :: us)
            (.binary op left expr) :=
          .binary (Category.mem_operators.mpr ⟨isOperator, rfl⟩) before (derives.loosen within)
        have fits' := (opens.fits around).mono (Nat.le_of_lt (level_lt op))
        obtain ⟨outer', before', inner, opens', derives', same, fit⟩ :=
          ih opens fits' (by rwa [rank_category]) whole (by rwa [rank_category])
        refine ⟨outer', before', inner, opens', derives', ?_, fit⟩
        simpa using same
      · have ends : Fits looser.rank (.binary op left :: stack) := Nat.not_le.mp waits
        rw [complete_of_fits ends]
        exact ⟨_, _, us, opens.binary around isOperator before, derives.loosen below, rfl,
          fun _ => ends⟩

end Opens

/-- What the parser has made of the tokens so far. -/
inductive Reads : State → List Token → Prop where
  | operand {category : Category} {stack : List Frame} {ts : List Token} :
      Opens category stack ts → Reads (.operand stack) ts
  | operator {category : Category} {stack : List Frame} {ts us : List Token} {expr : Expr} :
      Opens category stack ts → Fits Category.unary.rank stack → Derives .unary us expr →
      Reads (.operator expr stack) (ts ++ us)

namespace Reads

variable {stack : List Frame} {ts us : List Token} {expr : Expr}

/-- An operand is taken by the prefix operators before it. -/
theorem settle {category : Category} (opens : Opens category stack ts)
    (derives : Derives .unary us expr) : Reads (Expr.settle expr stack) (ts ++ us) := by
  induction stack generalizing category ts us expr with
  | nil => exact .operator opens trivial derives
  | cons frame stack ih =>
    cases opens with
    | not opens =>
      rw [Expr.settle, List.append_assoc]
      exact ih opens derives.not
    | neg opens =>
      rw [Expr.settle, List.append_assoc]
      exact ih opens derives.neg
    | paren opens => exact .operator opens.paren trivial derives
    | @binary _ _ _ _ _ op _ opens around isOperator left =>
      exact .operator (opens.binary around isOperator left) (level_lt op) derives

theorem primary {category : Category} (opens : Opens category stack ts)
    (derives : Derives .primary us expr) : Reads (Expr.settle expr stack) (ts ++ us) :=
  .settle opens (.operand derives)

/-- A binary operator behind an operand. -/
theorem infixStep {op : BinaryOp} {symbol : Symbol} {next : State}
    (reads : Reads (.operator expr stack) ts) (isOperator : symbol.binary? = some op)
    (done : Expr.infixStep op expr stack = .ok next) : Reads next (ts ++ [.symbol symbol]) := by
  cases reads with
  | @operator category _ ts us _ opens fits derives =>
    have below : (Expr.category op).left.rank ≤ Category.unary.rank := by
      cases op <;> decide
    obtain ⟨outer, before, inner, opens, derives, same, fit⟩ :=
      opens.complete fits (opens.rank_le fits) derives below
    have fit := fit below
    cases whole : complete (Expr.category op).left.rank expr stack with
    | mk left rest =>
    rw [whole] at opens derives fit
    rw [infixStep_of_complete whole] at done
    split at done
    · cases done
    · next free =>
      cases done
      rw [rank_left_category] at fit
      -- An operator that is not blocked belongs where the stack below it is open.
      have around := opens.rank_le (fits_of_not_blocked fit ((Bool.not_eq_true _).mp free))
      have waits := opens.binary around isOperator derives
      rw [same] at waits
      exact .operand waits

/-- A parenthesis behind an operand closes the innermost open one. -/
theorem closeParen {next : State} (reads : Reads (.operator expr stack) ts)
    (done : step (.operator expr stack) .closeParen = .ok next) :
    Reads next (ts ++ [.closeParen]) := by
  cases reads with
  | @operator category _ ts us _ opens fits derives =>
    have below : Category.or.rank ≤ Category.unary.rank := Nat.zero_le _
    obtain ⟨outer, before, inner, opens, derives, same, -⟩ :=
      opens.complete fits (opens.rank_le fits) derives below
    rw [step] at done
    split at done
    · next whole =>
      cases done
      have whole : complete Category.or.rank expr stack = _ := whole
      rw [whole] at opens derives
      -- The stack was opened by a parenthesis, so what is between the two is an expression.
      cases opens with
      | paren opens =>
        have closed := Reads.primary opens derives.paren
        rw [← same]
        simpa using closed
    · cases done

/-- Other names are no operands. -/
private theorem step_name (stack : List Frame) {s : String} (notTrue : s ≠ "true")
    (notFalse : s ≠ "false")
    (notNull : s ≠ "null") : Expr.step (.operand stack) (.name s) = .error .bareName := by
  simp [Expr.step]

/-- Every token goes on with what the tokens before it have opened. -/
theorem step {state next : State} {token : Token} (reads : Reads state ts)
    (done : Expr.step state token = .ok next) : Reads next (ts ++ [token]) := by
  -- Where an operand is due it is read, or something opens that has one.
  cases state with
  | operand stack =>
    obtain ⟨opens⟩ := reads
    cases token with
    | var path => cases done; exact .primary opens (.var path)
    | str s => cases done; exact .primary opens (.string s)
    | int n => cases done; exact .primary opens (.integer n)
    | name s =>
      by_cases isTrue : s = "true"
      · subst isTrue
        cases done
        exact .primary opens .true
      by_cases isFalse : s = "false"
      · subst isFalse
        cases done
        exact .primary opens .false
      by_cases isNull : s = "null"
      · subst isNull
        cases done
        exact .primary opens .null
      · rw [step_name stack isTrue isFalse isNull] at done
        cases done
    | symbol symbol =>
      cases symbol with
      | bang => cases done; exact .operand opens.not
      | minus => cases done; exact .operand opens.neg
      | _ => cases done
    | openParen => cases done; exact .operand opens.paren
    | closeParen => cases done
  | operator expr stack =>
    -- Behind an operand only an operator or a closing parenthesis goes on.
    cases token with
    | symbol symbol =>
      cases isOperator : symbol.binary? with
      | none => simp [Expr.step, isOperator] at done
      | some op => exact reads.infixStep isOperator (by simpa [Expr.step, isOperator] using done)
    | closeParen => exact reads.closeParen done
    | _ => cases done

theorem run {state last : State} {us : List Token} (reads : Reads state ts)
    (ran : us.foldlM Expr.step state = .ok last) : Reads last (ts ++ us) := by
  induction us generalizing state ts with
  | nil =>
    cases ran
    rwa [List.append_nil]
  | cons token us ih =>
    rw [List.foldlM_cons] at ran
    obtain ⟨next, here, later⟩ := bind_eq_ok.mp ran
    rw [List.append_cons]
    exact ih (reads.step here) later

/-- When nothing is left open, the tokens are an expression. -/
theorem finish {state : State} (reads : Reads state ts) (done : Expr.finish state = .ok expr) :
    Derives .or ts expr := by
  cases reads with
  | operand => cases done
  | @operator _ stack ts us inner opens fits derives =>
    have below : Category.or.rank ≤ Category.unary.rank := Nat.zero_le _
    obtain ⟨outer, before, inner', opens, derives, same, -⟩ :=
      opens.complete fits (opens.rank_le fits) derives below
    cases whole : complete Category.or.rank inner stack with
    | mk last rest =>
    rw [whole] at opens derives
    rw [Expr.finish, show complete 0 inner stack = _ from whole] at done
    cases opens with
    | nil =>
      cases done
      rwa [← same]
    | _ => cases done

end Reads

/-! ### Texts -/

/-- A text is read token by token, wherever its tokens stand. -/
theorem run_eq_ok {size : Nat} {state : State} {ts : List (Nat × Token)} {expr : Expr} :
    run size state ts = .ok expr ↔
      ∃ last, (ts.map Prod.snd).foldlM step state = .ok last ∧ finish last = .ok expr := by
  induction ts generalizing state with
  | nil =>
    rw [run]
    cases finished : finish state with
    | ok result => simp [Except.mapError, pure, Except.pure, finished]
    | error fault => simp [Except.mapError, pure, Except.pure, finished]
  | cons token ts ih =>
    rw [run, List.map_cons, List.foldlM_cons]
    cases stepped : step state token.2 with
    | ok next => exact ih
    | error fault => simp [bind, Except.bind]

/-- A run over tokens ends with an expression where the grammar derives it. -/
theorem run_eq_ok_iff_derives {size : Nat} {ts : List (Nat × Token)} {expr : Expr} :
    run size (.operand []) ts = .ok expr ↔ Derives .or (ts.map Prod.snd) expr := by
  rw [run_eq_ok]
  constructor
  · rintro ⟨last, ran, finished⟩
    exact ((Reads.operand .nil).run ran).finish finished
  · intro derives
    obtain ⟨last, rest, ran, whole⟩ := derives.readAs.completed [] trivial
    refine ⟨_, ran, ?_⟩
    rw [finish, show complete 0 last rest = _ from whole]

/-- Tokens are one expression at most. -/
theorem Derives.eq {ts : List Token} {expr other : Expr} (derives : Derives .or ts expr)
    (derives' : Derives .or ts other) : expr = other := by
  -- Both are what the parser makes of the tokens; where these stand does not matter.
  have same : (ts.map (Prod.mk 0)).map Prod.snd = ts := by
    rw [List.map_map]
    exact List.map_id ts
  rw [← same] at derives derives'
  have ran : run 0 (.operand []) (ts.map (Prod.mk 0)) = .ok expr :=
    run_eq_ok_iff_derives.mpr derives
  have ran' : run 0 (.operand []) (ts.map (Prod.mk 0)) = .ok other :=
    run_eq_ok_iff_derives.mpr derives'
  exact Except.ok.inj (ran.symm.trans ran')

/-- The only names in an expression are those of constants. -/
theorem Derives.mem_constants {category : Category} {ts : List Token} {expr : Expr}
    (derives : Derives category ts expr) {name : String} (member : .name name ∈ ts) :
    name ∈ ["true", "false", "null"] := by
  induction derives with
  | operand _ ih => exact ih member
  | binary _ _ _ first second =>
    rcases List.mem_append.mp member with before | behind
    · exact first before
    · exact second (by simpa using behind)
  | not _ ih | neg _ ih | paren _ ih => exact ih (by simpa using member)
  | var | string | integer | true | false | null => simp_all

/-- The parser accepts exactly what the grammar derives: a text is parsed as an expression
if it has tokens and these derive the expression. No tokens derive two expressions, and no
text with a name other than those of the constants is accepted. -/
theorem parse_accepts (text : List Char) :
    (∀ expr, parse text = .ok expr ↔
      ∃ ts, tokens text = .ok ts ∧ Derives .or (ts.map Prod.snd) expr) ∧
    (∀ ts expr other, Derives .or ts expr → Derives .or ts other → expr = other) ∧
    ∀ ts name, tokens text = .ok ts → .name name ∈ ts.map Prod.snd →
      name ∉ ["true", "false", "null"] → ∃ error, parse text = .error error := by
  have accepts : ∀ expr, parse text = .ok expr ↔
      ∃ ts, tokens text = .ok ts ∧ Derives .or (ts.map Prod.snd) expr := by
    intro expr
    rw [parse, bind_eq_ok]
    simp only [run_eq_ok_iff_derives]
  refine ⟨accepts, fun ts expr other => Derives.eq, ?_⟩
  intro ts name cut member other
  cases parsed : parse text with
  | error error => exact ⟨error, rfl⟩
  | ok expr =>
    obtain ⟨ts', cut', derives⟩ := (accepts expr).mp parsed
    cases cut.symm.trans cut'
    exact absurd (derives.mem_constants member) other

end Stencil.Expr
