import Stencil.Proofs.Expr.Spelling

/-!
# Writing expressions

Every expression made of variables and constants one can write has a text, with parentheses around
its operands, and it is what the text is parsed to.
-/
namespace Stencil

/-- The symbol an operator is written with. -/
def BinaryOp.symbol : BinaryOp → Expr.Symbol
  | .or => .or
  | .and => .and
  | .eq => .eq
  | .ne => .ne
  | .lt => .lt
  | .le => .le
  | .gt => .gt
  | .ge => .ge
  | .add => .plus
  | .sub => .minus
  | .concat => .tilde

@[simp]
theorem BinaryOp.binary?_symbol (op : BinaryOp) : op.symbol.binary? = some op := by
  cases op <;> rfl

namespace Expr

/-! ### Parentheses -/

/-- Where an expression stands: alone, or as an operand. -/
inductive Place where
  | alone
  | operand

/-- The tokens an expression is written with. As an operand it is in parentheses if it has an
operator of its own; more parentheses do no harm. -/
inductive Written : Place → Expr → List Token → Prop where
  | var {place : Place} (path : List String) : Written place (.var path) [.var path]
  | string {place : Place} (s : String) : Written place (.literal (.string s)) [.str s]
  | integer {place : Place} (n : Nat) : Written place (.literal (.integer n)) [.int n]
  | bool {place : Place} (b : Bool) :
      Written place (.literal (.bool b)) [.name (if b then "true" else "false")]
  | null {place : Place} : Written place (.literal .null) [.name "null"]
  | not {expr : Expr} {ts : List Token} :
      Written .operand expr ts → Written .alone (.not expr) (.symbol .bang :: ts)
  | neg {expr : Expr} {ts : List Token} :
      Written .operand expr ts → Written .alone (.neg expr) (.symbol .minus :: ts)
  | binary {op : BinaryOp} {left right : Expr} {ts us : List Token} :
      Written .operand left ts → Written .operand right us →
      Written .alone (.binary op left right) (ts ++ .symbol op.symbol :: us)
  | paren {place : Place} {expr : Expr} {ts : List Token} :
      Written .alone expr ts → Written place expr (.openParen :: ts ++ [.closeParen])

/-- A text of an expression. -/
def Writes (expr : Expr) (text : List Char) : Prop :=
  ∃ place ts, Written place expr ts ∧ Spaced ts text

/-- What an expression may be made of: paths of names, and constants. -/
structure Writable (expr : Expr) : Prop where
  paths : ∀ path ∈ expr.paths, path ≠ [] ∧ ∀ name ∈ path, IsName name
  literals : ∀ value ∈ expr.literals, IsConstant value

variable {place : Place} {expr : Expr} {ts : List Token}

namespace Place

/-- An operand is as tight as there is. -/
def category : Place → Category
  | .alone => .or
  | .operand => .primary

end Place

namespace Written

/-- What is written is derived. -/
theorem derives (written : Written place expr ts) : Derives place.category ts expr := by
  -- What stands alone is loose enough for any text, an operand tight enough for any operator.
  induction written with
  | @var place path => exact (Derives.var path).loosen (by cases place <;> decide)
  | @string place s => exact (Derives.string s).loosen (by cases place <;> decide)
  | @integer place n => exact (Derives.integer n).loosen (by cases place <;> decide)
  | @bool place b =>
    cases b with
    | true => exact Derives.true.loosen (by cases place <;> decide)
    | false => exact Derives.false.loosen (by cases place <;> decide)
  | @null place => exact Derives.null.loosen (by cases place <;> decide)
  | not _ ih => exact (ih.loosen (by decide)).not.loosen (by decide)
  | neg _ ih => exact (ih.loosen (by decide)).neg.loosen (by decide)
  | @binary op left right ts us _ _ first second =>
    have whole : Derives (Expr.category op) (ts ++ .symbol op.symbol :: us)
        (.binary op left right) :=
      .binary (Category.mem_operators.mpr ⟨op.binary?_symbol, rfl⟩)
        (first.loosen (by cases op <;> decide)) (second.loosen (by cases op <;> decide))
    exact whole.loosen (Nat.zero_le _)
  | @paren place _ _ _ ih => exact ih.paren.loosen (by cases place <;> decide)

/-- Operands neither begin nor end with the symbol of an operator. -/
theorem bounds (written : Written .operand expr ts) :
    (∀ token ∈ ts.head?, ¬ IsSymbol token) ∧ ∀ token ∈ ts.getLast?, ¬ IsSymbol token := by
  cases written with
  | paren =>
    rw [List.getLast?_concat]
    simp [IsSymbol]
  | _ => simp [IsSymbol]

/-- No two tokens run into each other. -/
theorem apart (written : Written place expr ts) : ts.IsChain Apart := by
  -- A symbol stands beside operands only, and parentheses are apart from everything.
  induction written with
  | not written ih | neg written ih =>
    refine List.isChain_cons.mpr ⟨fun next first => ?_, ih⟩
    exact ⟨fun words => words.1, fun symbols => written.bounds.1 next first symbols.2⟩
  | binary left right first second =>
    refine List.isChain_append.mpr ⟨first, List.isChain_cons.mpr ⟨?_, second⟩, ?_⟩
    · intro next starts
      exact ⟨fun words => words.1, fun symbols => right.bounds.1 next starts symbols.2⟩
    · intro last ends next starts
      cases starts
      exact ⟨fun words => words.2, fun symbols => left.bounds.2 last ends symbols.1⟩
  | paren _ ih =>
    refine List.isChain_append.mpr ⟨List.isChain_cons.mpr ⟨?_, ih⟩, List.isChain_singleton _, ?_⟩
    · intro next _
      exact ⟨fun words => words.1, fun symbols => symbols.1⟩
    · intro last _ next starts
      cases starts
      exact ⟨fun words => words.2, fun symbols => symbols.2⟩
  | var | string | integer | bool | null => exact List.isChain_singleton _

end Written

/-- Whatever is written is read back. -/
theorem parse_of_writes {text : List Char} (writes : Writes expr text) : parse text = .ok expr := by
  obtain ⟨place, ts, written, spaced⟩ := writes
  obtain ⟨placed, cut, same⟩ := tokensFrom_of_spaced spaced written.apart (Text.byteSize text)
  have derives : Derives .or (placed.map Prod.snd) expr := by
    rw [same]
    exact written.derives.loosen (by cases place <;> decide)
  exact bind_eq_ok.mpr ⟨placed, cut, run_eq_ok_iff_derives.mpr derives⟩

/-! ### What can be written -/

/-- A token that can be written. -/
def Spellable (token : Token) : Prop := ∃ written, Spells token written

@[simp]
theorem spellable_symbol (symbol : Symbol) : Spellable (.symbol symbol) := ⟨_, .symbol symbol⟩

@[simp]
theorem spellable_openParen : Spellable .openParen := ⟨_, .openParen⟩

@[simp]
theorem spellable_closeParen : Spellable .closeParen := ⟨_, .closeParen⟩

@[simp]
theorem spellable_var {path : List String} :
    Spellable (.var path) ↔ path ≠ [] ∧ ∀ name ∈ path, IsName name := by
  constructor
  · rintro ⟨written, spells⟩
    cases spells with
    | var present names => exact ⟨present, names⟩
  · rintro ⟨present, names⟩
    exact ⟨_, .var present names⟩

@[simp]
theorem spellable_int {n : Nat} : Spellable (.int n) ↔ n < Text.signedLimit64 := by
  constructor
  · rintro ⟨written, spells⟩
    cases spells with
    | int below => exact below
  · intro below
    exact ⟨_, .int below⟩

/-- Any text can be written, each of its characters with a backslash if need be. -/
@[simp]
theorem spellable_str (s : String) : Spellable (.str s) := by
  have escapes : ∃ text, Escapes '"' s.toList text := by
    induction s.toList with
    | nil => exact ⟨[], .nil⟩
    | cons c body ih =>
      obtain ⟨text, escapes⟩ := ih
      exact ⟨_, .escaped escapes⟩
  obtain ⟨text, escapes⟩ := escapes
  have spells := Spells.str (.inr rfl) escapes
  rw [String.ofList_toList] at spells
  exact ⟨_, spells⟩

private theorem spellable_name {name : String} {first : Char} {more : List Char}
    (whole : name.toList = first :: more) (starts : isNameStart first)
    (within : more.all isNameChar) : Spellable (.name name) := by
  have spells := Spells.name starts (List.all_eq_true.mp within)
  rw [← whole, String.ofList_toList] at spells
  exact ⟨_, spells⟩

private theorem spellable_constant {name : String} (constant : name ∈ ["true", "false", "null"]) :
    Spellable (.name name) := by
  simp only [List.mem_cons, List.not_mem_nil, or_false] at constant
  rcases constant with rfl | rfl | rfl
  · exact @spellable_name "true" 't' ['r', 'u', 'e'] (by decide +kernel) rfl rfl
  · exact @spellable_name "false" 'f' ['a', 'l', 's', 'e'] (by decide +kernel) rfl rfl
  · exact @spellable_name "null" 'n' ['u', 'l', 'l'] (by decide +kernel) rfl rfl

/-- Any tokens that can be written make up a text. -/
theorem exists_spaced (spelled : ∀ token ∈ ts, Spellable token) :
    ∃ text, Spaced ts text := by
  induction ts with
  | nil => exact ⟨[], .nil nofun⟩
  | cons token ts ih =>
    obtain ⟨⟨written, spells⟩, later⟩ := List.forall_mem_cons.mp spelled
    obtain ⟨text, spaced⟩ := ih later
    exact ⟨[] ++ (written ++ text), .cons nofun spells spaced⟩

theorem Spaced.spelled {text : List Char} (spaced : Spaced ts text) :
    ∀ token ∈ ts, Spellable token := by
  induction spaced with
  | nil => exact nofun
  | cons _ spells _ ih => exact List.forall_mem_cons.mpr ⟨⟨_, spells⟩, ih⟩

namespace Writable

theorem exists_written (writable : expr.Writable) :
    ∃ ts, Written .operand expr ts ∧ ∀ token ∈ ts, Spellable token := by
  -- Every operator gets its parentheses.
  induction expr with
  | literal value =>
    have constant := writable.literals value (List.mem_singleton_self value)
    cases constant with
    | null => exact ⟨_, .null, by simpa using spellable_constant (by simp)⟩
    | bool b => exact ⟨_, .bool b, by simpa using spellable_constant (by cases b <;> simp)⟩
    | string s => exact ⟨_, .string s, by simp⟩
    | integer below => exact ⟨_, .integer _, by simpa using below⟩
  | var path =>
    have names := writable.paths path (List.mem_singleton_self path)
    exact ⟨_, .var path, by simpa using names⟩
  | not operand ih =>
    obtain ⟨ts, written, spelled⟩ := ih ⟨writable.paths, writable.literals⟩
    exact ⟨_, .paren written.not, by simpa [or_imp, forall_and] using spelled⟩
  | neg operand ih =>
    obtain ⟨ts, written, spelled⟩ := ih ⟨writable.paths, writable.literals⟩
    exact ⟨_, .paren written.neg, by simpa [or_imp, forall_and] using spelled⟩
  | binary op left right first second =>
    obtain ⟨paths, paths'⟩ := List.forall_mem_append.mp writable.paths
    obtain ⟨literals, literals'⟩ := List.forall_mem_append.mp writable.literals
    obtain ⟨ts, written, spelled⟩ := first ⟨paths, literals⟩
    obtain ⟨us, written', spelled'⟩ := second ⟨paths', literals'⟩
    exact ⟨_, .paren (written.binary written'),
      by simpa [or_imp, forall_and] using ⟨spelled, spelled'⟩⟩

end Writable

private theorem Written.writable (written : Written place expr ts)
    (spelled : ∀ token ∈ ts, Spellable token) : expr.Writable := by
  induction written with
  | var path => exact ⟨by simpa [paths] using spelled, nofun⟩
  | string s => exact ⟨nofun, by simpa [literals] using .string s⟩
  | integer n => exact ⟨nofun, by simpa [literals] using .integer (by simpa using spelled)⟩
  | bool b => exact ⟨nofun, by simpa [literals] using .bool b⟩
  | null => exact ⟨nofun, by simpa [literals] using .null⟩
  | not _ ih | neg _ ih =>
    obtain ⟨paths, literals⟩ := ih (List.forall_mem_cons.mp spelled).2
    exact ⟨paths, literals⟩
  | binary _ _ first second =>
    obtain ⟨before, behind⟩ := List.forall_mem_append.mp spelled
    have left := first before
    have right := second (List.forall_mem_cons.mp behind).2
    exact ⟨List.forall_mem_append.mpr ⟨left.paths, right.paths⟩,
      List.forall_mem_append.mpr ⟨left.literals, right.literals⟩⟩
  | paren _ ih =>
    have inside := (List.forall_mem_append.mp spelled).1
    exact ih (List.forall_mem_cons.mp inside).2

/-- An expression has a text where its paths are names and its literals constants, and whichever
text of it is parsed, the expression is what comes out: with single or double quotes, and with
blanks and parentheses wherever they may stand. -/
theorem parse_reads_back (expr : Expr) :
    (expr.Writable ↔ ∃ text, expr.Writes text) ∧
      ∀ text, expr.Writes text → parse text = .ok expr := by
  refine ⟨⟨?_, ?_⟩, fun text => parse_of_writes⟩
  · intro writable
    obtain ⟨ts, written, spelled⟩ := writable.exists_written
    obtain ⟨text, spaced⟩ := exists_spaced spelled
    exact ⟨text, .operand, ts, written, spaced⟩
  · rintro ⟨text, place, ts, written, spaced⟩
    exact written.writable spaced.spelled

/-- Quotes and backslashes in a text, a path with a number in it, symbols that others start with,
and the largest integer. -/
theorem parse_reads_back_symbols :
    parse "(!($a.0 <(-9223372036854775807)))!=\"'\\\"\\\\\"".toList
      = .ok (.binary .ne
          (.not (.binary .lt (.var ["a", "0"]) (.neg (.literal (.integer 9223372036854775807)))))
          (.literal (.string "'\"\\"))) := by
  have none : ∀ c ∈ ([] : List Char), Text.isBlank c := nofun
  have blank : ∀ c ∈ [' '], Text.isBlank c := List.forall_mem_singleton.mpr rfl
  have path : Spells (.var ["a", "0"]) _ := .var (by decide) (by decide +kernel)
  have largest : Spells (.int 9223372036854775807) _ := .int (by decide)
  have string : Spells (.str (String.ofList ['\'', '"', '\\'])) _ :=
    .str (.inr rfl) (.plain (by decide) (by decide) (.escaped (.escaped .nil)))
  have whole : String.ofList ['\'', '"', '\\'] = "'\"\\" := by decide +kernel
  rw [whole] at string
  have written : Written .alone (.binary .ne
      (.not (.binary .lt (.var ["a", "0"]) (.neg (.literal (.integer 9223372036854775807)))))
      (.literal (.string "'\"\\"))) _ :=
    .binary (.paren (.not (.paren (.binary (.var _) (.paren (.neg (.integer _))))))) (.string _)
  have spaced := Spaced.cons none .openParen (.cons none (.symbol .bang) (.cons none .openParen
    (.cons none path (.cons blank (.symbol .lt) (.cons none .openParen (.cons none (.symbol .minus)
    (.cons none largest (.cons none .closeParen (.cons none .closeParen (.cons none .closeParen
    (.cons none (.symbol .ne) (.cons none string (.nil none)))))))))))))
  have read := (parse_reads_back _).2 _ ⟨.alone, _, written, spaced⟩
  exact .trans (congrArg parse (by decide +kernel)) read

end Expr

end Stencil
