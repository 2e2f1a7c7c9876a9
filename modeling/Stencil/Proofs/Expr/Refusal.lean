import Stencil.Proofs.Expr.Offset
import Stencil.Proofs.Expr.Writing

/-!
# The token an error is about

What the parser has read can always be completed to an expression, so it refuses a token only
where no expression goes on with it. The position of an error therefore is that of the first token
that no expression has behind the tokens before it, or the end of the text
(`parse_error_position`).
-/
namespace Stencil.Expr

/-- The tokens of a text that the grammar derives an expression from. -/
def IsExpression (ts : List Token) : Prop :=
  (∃ text placed, tokens text = .ok placed ∧ placed.map Prod.snd = ts) ∧ ∃ expr, Derives .or ts expr

/-- Tokens that an expression can begin with. -/
def Begins (ts : List Token) : Prop := ∃ more, IsExpression (ts ++ more)

/-- That a token is read at this offset of a text. -/
def StandsAt (text : List Char) (position : Nat) (token : Token) : Prop :=
  ∃ before c more rest, text = before ++ c :: more ∧ position = Text.byteSize before ∧
    Text.isBlank c = false ∧ Expr.token c more = .ok (token, rest)

variable {text rest : List Char} {c : Char} {t : Token} {ts : List Token} {state : State}
  {size : Nat} {placed : List (Nat × Token)}

/-! ### Tokens that are read can be written -/

private theorem isName_of_letters {name : List Char} (filled : name.isEmpty = false)
    (letters : ∀ c ∈ name, isNameChar c) : IsName (String.ofList name.reverse) := by
  constructor
  · intro empty
    have none := congrArg String.toList empty
    simp at none
    simp [none] at filled
  · simpa [List.all_eq_true] using letters

/-- The parts of a path that is read are names. -/
private theorem names_of_path? {name : List Char} {done path : List String}
    (letters : ∀ c ∈ name, isNameChar c) (names : ∀ part ∈ done, IsName part)
    (read : path? name done text = some (path, rest)) :
    path ≠ [] ∧ ∀ part ∈ path, IsName part := by
  -- A name is finished by a point or by the end of the path, and it is not empty there.
  fun_induction path? name done text with
  | case1 | case4 => cases read
  | case2 name done filled | case6 name done c text other filled point =>
    cases read
    have finished := isName_of_letters ((Bool.not_eq_true _).mp filled) letters
    have names := List.forall_mem_cons.mpr ⟨finished, names⟩
    constructor
    · simp
    · simpa only [List.mem_reverse] using names
  | case3 name done c text letter ih =>
    exact ih (List.forall_mem_cons.mpr ⟨letter, letters⟩) names read
  | case5 name done text filled ends ih =>
    have finished := isName_of_letters ((Bool.not_eq_true _).mp filled) letters
    exact ih (List.forall_mem_nil _) (List.forall_mem_cons.mpr ⟨finished, names⟩) read

/-- Whatever is read as a token is one that can be written. -/
theorem spellable_of_token (read : token c text = .ok (t, rest)) : Spellable t := by
  unfold token at read
  -- In the order in which a token is looked for, each branch gives one that can be written.
  split at read
  · split at read
    · next found =>
      cases read
      exact spellable_var.mpr (names_of_path? (List.forall_mem_nil _) (List.forall_mem_nil _) found)
    · cases read
  split at read
  · split at read
    · cases read
      exact spellable_str _
    · cases read
  split at read
  · split at read
    · next n digits =>
      cases read
      exact spellable_int.mpr (Text.natural_lt digits)
    · cases read
  split at read
  · next starts =>
    cases read
    exact ⟨_, .name starts fun c within => List.mem_takeWhile_imp within⟩
  split at read
  · cases read
    exact spellable_openParen
  split at read
  · cases read
    exact spellable_closeParen
  split at read
  · cases read
    exact spellable_symbol _
  · cases read

private theorem spellable_of_tokensFrom (cut : tokensFrom size text = .ok placed) :
    ∀ token ∈ placed.map Prod.snd, Spellable token := by
  induction text using tokensFrom.induct size generalizing placed with
  | case1 =>
    rw [tokensFrom] at cut
    cases cut
    exact List.forall_mem_nil _
  | case2 c rest blank ih =>
    rw [tokensFrom, if_pos blank] at cut
    exact ih cut
  | case3 c rest solid t after read shorter ih =>
    rw [tokensFrom_of_token ((Bool.not_eq_true _).mp solid) read] at cut
    obtain ⟨later, cut', rfl⟩ := map_eq_ok.mp cut
    exact List.forall_mem_cons.mpr ⟨spellable_of_token read, ih cut'⟩
  | case4 c rest solid fault failed =>
    rw [tokensFrom_of_fault ((Bool.not_eq_true _).mp solid) failed] at cut
    cases cut

/-- Any tokens that can be written make up a text, with a blank behind each. -/
private theorem exists_tokensFrom (spelled : ∀ token ∈ ts, Spellable token) :
    ∃ text, ∀ size, ∃ placed, tokensFrom size text = .ok placed ∧ placed.map Prod.snd = ts := by
  induction ts with
  | nil =>
    refine ⟨[], fun size => ⟨[], ?_, rfl⟩⟩
    rw [tokensFrom]
  | cons token ts ih =>
    obtain ⟨⟨written, spells⟩, later⟩ := List.forall_mem_cons.mp spelled
    obtain ⟨text, cut⟩ := ih later
    obtain ⟨first, more, rfl, solid, read⟩ := readFrom_of_spells spells
    refine ⟨first :: (more ++ ' ' :: text), fun size => ?_⟩
    obtain ⟨placed, cut, same⟩ := cut size
    have blank : Text.isBlank ' ' := by decide
    have ends : ∀ c ∈ (' ' :: text).head?, Ends token c := by
      rintro c ⟨⟩
      exact ends_of_blank token blank
    rw [tokensFrom_of_token solid (read _ ends), tokensFrom, if_pos blank, cut]
    exact ⟨_, rfl, congrArg _ same⟩

/-- The tokens of texts are those that can be written. -/
theorem exists_tokens_iff :
    (∃ text placed, tokens text = .ok placed ∧ placed.map Prod.snd = ts) ↔
      ∀ token ∈ ts, Spellable token := by
  constructor
  · rintro ⟨text, placed, cut, rfl⟩
    exact spellable_of_tokensFrom cut
  · intro spelled
    obtain ⟨text, cut⟩ := exists_tokensFrom spelled
    exact ⟨text, cut (Text.byteSize text)⟩

/-! ### What is read can be completed -/

private theorem Opens.rank_le_unary {category : Category} {stack : List Frame}
    (opens : Opens category stack ts) : category.rank ≤ Category.unary.rank := by
  cases opens with
  | nil | paren => exact Nat.zero_le _
  | not | neg => exact Nat.le_refl _
  | @binary _ _ _ _ _ op =>
    rw [rank_next_category]
    exact level_lt op

/-- Where an expression has to follow, any one of the category will do: what is left to close are
parentheses. -/
theorem Opens.completes {category : Category} {stack : List Frame} {us : List Token} {expr : Expr}
    (opens : Opens category stack ts) (derives : Derives category us expr) :
    ∃ closing whole, Derives .or (ts ++ us ++ closing) whole ∧
      ∀ token ∈ closing, token = .closeParen := by
  -- The induction is on what is open, from the inside out: each frame takes the expression so far
  -- for its operand, and what comes of it is an operand of the frame around it.
  induction opens generalizing us expr with
  | nil => exact ⟨[], expr, by simpa using derives, List.forall_mem_nil _⟩
  | not opens ih =>
    obtain ⟨closing, whole, derives, closes⟩ := ih (derives.not.loosen opens.rank_le_unary)
    exact ⟨closing, whole, by simpa using derives, closes⟩
  | neg opens ih =>
    obtain ⟨closing, whole, derives, closes⟩ := ih (derives.neg.loosen opens.rank_le_unary)
    exact ⟨closing, whole, by simpa using derives, closes⟩
  | @paren category _ _ opens ih =>
    have tight : category.rank ≤ Category.primary.rank :=
      Nat.le_trans opens.rank_le_unary (by decide)
    obtain ⟨closing, whole, derives, closes⟩ := ih (derives.paren.loosen tight)
    exact ⟨.closeParen :: closing, whole, by simpa using derives,
      List.forall_mem_cons.mpr ⟨rfl, closes⟩⟩
  | @binary outer _ _ _ _ op _ opens around isOperator left ih =>
    have applied := Derives.binary (Category.mem_operators.mpr ⟨isOperator, rfl⟩) left derives
    have fits : outer.rank ≤ (Expr.category op).rank := by rwa [rank_category]
    obtain ⟨closing, whole, derives, closes⟩ := ih (applied.loosen fits)
    exact ⟨closing, whole, by simpa using derives, closes⟩

/-- Whatever state the parser is in, there is an expression that goes on from there. -/
theorem Reads.completes (reads : Reads state ts) :
    ∃ more, (∃ expr, Derives .or (ts ++ more) expr) ∧ ∀ token ∈ more, Spellable token := by
  cases reads with
  | @operand category _ _ opens =>
    have tight : category.rank ≤ Category.primary.rank :=
      Nat.le_trans opens.rank_le_unary (by decide)
    -- A number is an operand wherever one is due.
    obtain ⟨closing, whole, derives, closes⟩ := opens.completes ((Derives.integer 0).loosen tight)
    refine ⟨.int 0 :: closing, ⟨whole, by simpa using derives⟩,
      List.forall_mem_cons.mpr ⟨spellable_int.mpr (by decide), ?_⟩⟩
    intro token within
    rw [closes token within]
    exact spellable_closeParen
  | operator opens fits derives =>
    obtain ⟨closing, whole, derives, closes⟩ :=
      opens.completes (derives.loosen opens.rank_le_unary)
    refine ⟨closing, ⟨whole, derives⟩, ?_⟩
    intro token within
    rw [closes token within]
    exact spellable_closeParen

/-- What is read without a fault is what an expression can begin with. -/
theorem begins_of_reads (ran : ts.foldlM step (.operand []) = .ok state)
    (spelled : ∀ token ∈ ts, Spellable token) : Begins ts := by
  obtain ⟨more, derives, completed⟩ := ((Reads.operand .nil).run ran).completes
  exact ⟨more, exists_tokens_iff.mpr (List.forall_mem_append.mpr ⟨spelled, completed⟩), derives⟩

/-! ### What is refused has no expression -/

/-- An expression does not go on with a token that is refused. -/
theorem not_begins_of_refused {fault : Fault} (ran : ts.foldlM step (.operand []) = .ok state)
    (refused : step state t = .error fault) : ¬ Begins (ts ++ [t]) := by
  rintro ⟨more, -, expr, derives⟩
  -- The parser would read all the tokens of the expression, this one among them.
  obtain ⟨last, rest, read, -⟩ := derives.readAs.completed [] trivial
  rw [List.append_assoc, List.foldlM_append, ran] at read
  change (step state t >>= fun next => more.foldlM step next) = _ at read
  rw [refused] at read
  cases read

/-- A run fails at its first token that is refused, or at the end of the tokens. -/
theorem run_eq_error {start : State} {error : ParseError}
    (failed : run size start placed = .error error) :
    (∃ before token after state fault, placed = before ++ (error.position, token) :: after ∧
        (before.map Prod.snd).foldlM step start = .ok state ∧ step state token = .error fault) ∨
      (error.position = size ∧ ∃ state, (placed.map Prod.snd).foldlM step start = .ok state) := by
  induction placed generalizing start with
  | nil =>
    right
    rw [run] at failed
    -- The end of the text is refused if the tokens could go on.
    cases finished : finish start with
    | ok expr =>
      rw [finished] at failed
      cases failed
    | error fault =>
      rw [finished] at failed
      cases failed
      exact ⟨rfl, start, rfl⟩
  | cons entry placed ih =>
    obtain ⟨position, token⟩ := entry
    rw [run] at failed
    cases stepped : step start token with
    | error fault =>
      simp only [stepped] at failed
      cases failed
      exact .inl ⟨[], token, placed, start, fault, rfl, rfl, stepped⟩
    | ok next =>
      simp only [stepped] at failed
      -- What is refused later stands as far behind this token.
      rcases ih failed with
        ⟨before, token', after, state, fault, rfl, ran, refused⟩ | ⟨atEnd, state, ran⟩
      · left
        refine ⟨(position, token) :: before, token', after, state, fault, rfl, ?_, refused⟩
        rw [List.map_cons, List.foldlM_cons, stepped]
        exact ran
      · right
        refine ⟨atEnd, state, ?_⟩
        rw [List.map_cons, List.foldlM_cons, stepped]
        exact ran

/-! ### Where faults are reported -/

/-- Tokens that stand in a text, or a fault that does. -/
def Located (text : List Char) : Except ParseError (List (Nat × Token)) → Prop
  | .ok placed => ∀ entry ∈ placed, StandsAt text entry.1 entry.2
  | .error error => Text.IsBoundary text error.position

private theorem located_tokensFrom {before : List Char}
    (whole : size = Text.byteSize (before ++ text)) :
    Located (before ++ text) (tokensFrom size text) := by
  -- What has been read moves to the text before.
  induction text using tokensFrom.induct size generalizing before with
  | case1 =>
    rw [tokensFrom]
    exact List.forall_mem_nil _
  | case2 c rest blank ih =>
    rw [List.append_cons] at whole ⊢
    rw [tokensFrom, if_pos blank]
    exact ih whole
  | case3 c rest solid t after read shorter ih =>
    have solid := (Bool.not_eq_true _).mp solid
    have here : size - Text.byteSize (c :: rest) = Text.byteSize before := by
      rw [whole, Text.byteSize_append]
      omega
    obtain ⟨written, split⟩ := exists_written read
    have later : Located (before ++ (c :: rest)) (tokensFrom size after) := by
      rw [split, ← List.append_assoc] at whole ⊢
      exact ih whole
    rw [tokensFrom_of_token solid read, here]
    cases cut : tokensFrom size after with
    | error error =>
      rw [cut] at later
      exact later
    | ok placed =>
      rw [cut] at later
      exact List.forall_mem_cons.mpr ⟨⟨before, c, rest, after, rfl, rfl, solid, read⟩, later⟩
  | case4 c rest solid fault failed =>
    have here : size - Text.byteSize (c :: rest) = Text.byteSize before := by
      rw [whole, Text.byteSize_append]
      omega
    rw [tokensFrom_of_fault ((Bool.not_eq_true _).mp solid) failed, here]
    exact ⟨before, c :: rest, rfl, rfl⟩

private theorem located_tokens (text : List Char) : Located text (tokens text) := by
  have whole : Text.byteSize text = Text.byteSize ([] ++ text) := rfl
  exact located_tokensFrom whole

/-- Of a text that has tokens, the error is about the first one that no expression has behind the
tokens before it, or about the end of the text. -/
theorem position_of_tokens {error : ParseError} (failed : parse text = .error error)
    (cut : tokens text = .ok placed) :
    (∃ before token after, placed = before ++ (error.position, token) :: after ∧
      StandsAt text error.position token ∧
      Begins (before.map Prod.snd) ∧ ¬ Begins (before.map Prod.snd ++ [token])) ∨
    (error.position = Text.byteSize text ∧
      Begins (placed.map Prod.snd) ∧ ¬ IsExpression (placed.map Prod.snd)) := by
  have ran : run (Text.byteSize text) (.operand []) placed = .error error := by
    rw [parse, cut] at failed
    exact failed
  have located := located_tokens text
  have spelled := spellable_of_tokensFrom cut
  rw [cut] at located
  rcases run_eq_error ran with
    ⟨before, token, after, state, fault, rfl, read, refused⟩ | ⟨atEnd, state, read⟩
  · left
    have stands := located _ (List.mem_append_right before List.mem_cons_self)
    rw [List.map_append] at spelled
    have spelledBefore := (List.forall_mem_append.mp spelled).1
    exact ⟨before, token, after, rfl, stands, begins_of_reads read spelledBefore,
      not_begins_of_refused read refused⟩
  · right
    refine ⟨atEnd, begins_of_reads read spelled, ?_⟩
    -- Over the tokens of an expression the run would not fail.
    rintro ⟨-, expr, derives⟩
    cases ran.symm.trans (run_eq_ok_iff_derives.mpr derives)

/-- Where a text is no expression, the error is at an offset between characters. If the text has
tokens, it is the offset of the first one that no expression has behind the tokens before it; or it
is the end of the text, when an expression begins with all the tokens but has more of them. -/
theorem parse_error_position (text : List Char) (error : ParseError)
    (failed : parse text = .error error) :
    error.position ≤ Text.byteSize text ∧ Text.IsBoundary text error.position ∧
      ∀ placed, tokens text = .ok placed →
        (∃ before token after, placed = before ++ (error.position, token) :: after ∧
          StandsAt text error.position token ∧
          Begins (before.map Prod.snd) ∧ ¬ Begins (before.map Prod.snd ++ [token])) ∨
        (error.position = Text.byteSize text ∧
          Begins (placed.map Prod.snd) ∧ ¬ IsExpression (placed.map Prod.snd)) := by
  have boundary : Text.IsBoundary text error.position := by
    cases cut : tokens text with
    | error fault =>
      -- A text without tokens is not parsed any further.
      have located := located_tokens text
      rw [parse, cut] at failed
      cases failed
      rwa [cut] at located
    | ok placed =>
      rcases position_of_tokens failed cut with ⟨-, token, -, -, stands, -⟩ | ⟨atEnd, -⟩
      · obtain ⟨before, c, more, -, whole, here, -⟩ := stands
        exact ⟨before, c :: more, whole, here⟩
      · exact ⟨text, [], (List.append_nil text).symm, atEnd⟩
  exact ⟨boundary.le, boundary, fun placed cut => position_of_tokens failed cut⟩

/-- Comparisons do not chain: the error is about the second one, though no parenthesis is closed
behind it. -/
theorem parse_error_position_chained :
    parse "$a == 'é' < (1".toList = .error ⟨11, .trailing⟩ ∧
      StandsAt "$a == 'é' < (1".toList 11 (.symbol .lt) ∧
      Begins [.var ["a"], .symbol .eq, .str "é"] ∧
      ¬ Begins [.var ["a"], .symbol .eq, .str "é", .symbol .lt] := by
  have failed : parse "$a == 'é' < (1".toList = .error ⟨11, .trailing⟩ :=
    error?_eq_some.mp (by decide +kernel)
  obtain ⟨placed, cut, written⟩ : ∃ placed, tokens "$a == 'é' < (1".toList = .ok placed ∧
      placed = [(0, .var ["a"]), (3, .symbol .eq), (6, .str "é"), (11, .symbol .lt),
        (13, .openParen), (14, .int 1)] := exists_of_any (by decide +kernel)
  obtain ⟨-, -, places⟩ := parse_error_position _ _ failed
  rcases places _ cut with ⟨before, token, after, same, stands, begins, ends⟩ | ⟨atEnd, -⟩
  · rw [written] at same
    -- Only one of the tokens is at this offset.
    have split : before = [(0, .var ["a"]), (3, .symbol .eq), (6, .str "é")] ∧
        token = .symbol .lt := by
      rcases before with _ | ⟨a, _ | ⟨b, _ | ⟨c, _ | ⟨d, _ | ⟨e, _ | ⟨f, before⟩⟩⟩⟩⟩⟩ <;>
        simp_all
    obtain ⟨rfl, rfl⟩ := split
    exact ⟨failed, stands, begins, ends⟩
  · exact absurd atEnd (by decide +kernel)

end Stencil.Expr
