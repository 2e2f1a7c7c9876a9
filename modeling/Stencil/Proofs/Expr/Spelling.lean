import Mathlib.Data.List.Chain
import Stencil.Proofs.Expr.Literals
import Stencil.Proofs.Json.Numeral

/-!
# Spelling tokens

How the tokens of expressions are written. A text of tokens with blanks wherever one likes is
cut into these tokens again, unless two of them stand side by side that run into each other.
-/
namespace Stencil

namespace Text

private theorem readDigits_of_lt {limit n : Nat} {digits : List Char}
    (digit : ∀ c ∈ digits, c.isDigit) (below : Nat.ofDigitChars 10 digits n < limit) :
    readDigits limit n digits = .ok (Nat.ofDigitChars 10 digits n) := by
  induction digits generalizing n with
  | nil => rfl
  | cons c rest ih =>
    obtain ⟨here, later⟩ := List.forall_mem_cons.mp digit
    have next := Json.append_digit n c
    have fits : n * 10 + digitValue c < limit :=
      next ▸ Nat.lt_of_le_of_lt (Json.le_ofDigitChars rest _) below
    rw [readDigits, here]
    simp only [Bool.not_true, Bool.false_eq_true, if_false]
    rw [if_pos fits, next]
    exact ih later below

private theorem natural_digits {limit n : Nat} (below : n < limit) :
    natural limit (Nat.toDigits 10 n) = .ok n := by
  have digit : ∀ c ∈ Nat.toDigits 10 n, c.isDigit := fun c => Json.isDigit_of_mem_digits
  have value := Nat.ofDigitChars_toDigits (b := 10) (n := n) (by decide) (by decide)
  obtain ⟨first, rest, digits⟩ := List.exists_cons_of_ne_nil (@Nat.toDigits_ne_nil n 10)
  rw [digits] at digit value ⊢
  -- A digit is no sign.
  have unsigned : first ≠ '+' := by
    rintro rfl
    exact absurd (digit '+' List.mem_cons_self) (by decide)
  rw [natural]
  · exact (readDigits_of_lt digit (value.symm ▸ below)).trans (congrArg Except.ok value)
  · simp
  · simp [unsigned]
  · simp [unsigned]

end Text

namespace Expr

/-! ### Spellings -/

def Symbol.text : Symbol → List Char
  | .eq => ['=', '=']
  | .ne => ['!', '=']
  | .le => ['<', '=']
  | .ge => ['>', '=']
  | .and => ['&', '&']
  | .or => ['|', '|']
  | .lt => ['<']
  | .gt => ['>']
  | .bang => ['!']
  | .plus => ['+']
  | .minus => ['-']
  | .tilde => ['~']
  | .assign => ['=']

/-- A name in the path of a variable: ASCII letters, digits and underscores. -/
def IsName (name : String) : Prop := name ≠ "" ∧ name.toList.all isNameChar

instance (name : String) : Decidable (IsName name) :=
  inferInstanceAs (Decidable (name ≠ "" ∧ name.toList.all isNameChar))

/-- What stands between the quotes for a text. Every character may have a backslash before it,
the quote and the backslash must have one. -/
inductive Escapes (quote : Char) : List Char → List Char → Prop where
  | nil : Escapes quote [] []
  | plain {c : Char} {body text : List Char} : c ≠ quote → c ≠ '\\' → Escapes quote body text →
      Escapes quote (c :: body) (c :: text)
  | escaped {c : Char} {body text : List Char} : Escapes quote body text →
      Escapes quote (c :: body) ('\\' :: c :: text)

/-- How a token is written. -/
inductive Spells : Token → List Char → Prop where
  | var {path : List String} : path ≠ [] → (∀ name ∈ path, IsName name) →
      Spells (.var path) ('$' :: ['.'].intercalate (path.map String.toList))
  | str {quote : Char} {body text : List Char} : quote = '\'' ∨ quote = '"' →
      Escapes quote body text → Spells (.str (String.ofList body)) (quote :: text ++ [quote])
  | int {n : Nat} : n < Text.signedLimit64 → Spells (.int n) (Nat.toDigits 10 n)
  | name {first : Char} {more : List Char} : isNameStart first → (∀ c ∈ more, isNameChar c) →
      Spells (.name (String.ofList (first :: more))) (first :: more)
  | symbol (symbol : Symbol) : Spells (.symbol symbol) symbol.text
  | openParen : Spells .openParen ['(']
  | closeParen : Spells .closeParen [')']

/-- Whether a token ends before this character. -/
def Ends : Token → Char → Prop
  | .var _, c | .int _, c | .name _, c => isNameChar c = false ∧ c ≠ '.'
  | .symbol _, c => c ≠ '='
  | .str _, _ | .openParen, _ | .closeParen, _ => True

variable {token : Token} {first c : Char} {written text rest : List Char}

/-! ### Characters -/

private theorem isNameChar_iff : isNameChar c ↔ c.isAlpha ∨ c.isDigit ∨ c = '_' := by
  have parts : isNameChar c = ((c.isAlpha || c.isDigit) || c == '_') := rfl
  simp [parts, or_assoc]

private theorem isNameStart_iff : isNameStart c ↔ c.isAlpha ∨ c = '_' := by
  simp [isNameStart]

private theorem range_of_isAlpha (letter : c.isAlpha) : 65 ≤ c.toNat ∧ c.toNat ≤ 122 := by
  rw [Text.isAlpha_iff, Text.isUpper_iff, Text.isLower_iff] at letter
  omega

private theorem isBlank_of_isNameChar (letter : isNameChar c) : Text.isBlank c = false := by
  have range : 48 ≤ c.toNat ∧ c.toNat ≤ 122 := by
    rcases isNameChar_iff.mp letter with alpha | digit | rfl
    · have range := range_of_isAlpha alpha
      omega
    · have range := Text.isDigit_iff.mp digit
      omega
    · decide
  simp [Text.isBlank]
  omega

private theorem isNameChar_of_isDigit (digit : c.isDigit) : isNameChar c :=
  isNameChar_iff.mpr (.inr (.inl digit))

private theorem isNameChar_of_isNameStart (starts : isNameStart c) : isNameChar c :=
  isNameChar_iff.mpr ((isNameStart_iff.mp starts).imp id .inr)

private theorem isDigit_of_isNameStart (starts : isNameStart c) : c.isDigit = false := by
  rw [← Bool.not_eq_true, Text.isDigit_iff]
  rcases isNameStart_iff.mp starts with alpha | rfl
  · have range := range_of_isAlpha alpha
    omega
  · decide

private theorem ne_of_isNameChar (letter : isNameChar c) {d : Char} (other : isNameChar d = false) :
    c ≠ d := by
  rintro rfl
  exact Bool.false_ne_true (other.symm.trans letter)

/-! ### Reading one token -/

private theorem path?_run {name before : List Char} (within : ∀ c ∈ name, isNameChar c)
    (done : List String) :
    path? before done (name ++ rest) = path? (name.reverse ++ before) done rest := by
  induction name generalizing before with
  | nil => rfl
  | cons c name ih =>
    obtain ⟨here, later⟩ := List.forall_mem_cons.mp within
    rw [List.cons_append, path?, if_pos here, ih later, List.reverse_cons, List.append_assoc]
    rfl

private theorem path?_names {path : List String} (present : path ≠ [])
    (names : ∀ name ∈ path, IsName name)
    (ends : ∀ c ∈ rest.head?, isNameChar c = false ∧ c ≠ '.') (done : List String) :
    path? [] done (['.'].intercalate (path.map String.toList) ++ rest)
      = some (done.reverse ++ path, rest) := by
  -- The last name ends with the text of the path, any other one at a point.
  induction path generalizing done with
  | nil => exact absurd rfl present
  | cons name path ih =>
    obtain ⟨⟨filled, letters⟩, later⟩ := List.forall_mem_cons.mp names
    have within := List.all_eq_true.mp letters
    have nonempty : name.toList.reverse.isEmpty = false := by simpa using filled
    cases path with
    | nil =>
      rw [List.map_singleton, List.intercalate_singleton, path?_run within, List.append_nil]
      cases rest with
      | nil => simp [path?, nonempty]
      | cons c rest =>
        obtain ⟨noName, noPoint⟩ := ends c rfl
        simp [path?, nonempty, noName, noPoint]
    | cons second path =>
      have noName : isNameChar '.' = false := by decide
      rw [List.map_cons, List.map_cons, List.intercalate_cons_cons, List.append_assoc,
        List.append_assoc, path?_run within, List.append_nil, List.singleton_append, path?,
        nonempty, noName]
      simp only [Bool.false_eq_true, if_false, if_true, List.reverse_reverse, String.ofList_toList]
      rw [← List.map_cons, ih (List.cons_ne_nil _ _) later]
      simp

private theorem stringBody_escapes {quote : Char} {body : List Char} (noEscape : quote ≠ '\\')
    (escapes : Escapes quote body text) (done rest : List Char) :
    stringBody quote done (text ++ quote :: rest) = some (done.reverse ++ body, rest) := by
  induction escapes generalizing done with
  | nil => simp [stringBody, noEscape]
  | plain noQuote noSlash _ ih => simp [stringBody, noQuote, noSlash, ih]
  | escaped _ ih => simp [stringBody, ih]

private theorem symbol?_text (symbol : Symbol) (ends : ∀ c ∈ rest.head?, c ≠ '=') :
    symbol? (symbol.text ++ rest) = some (symbol, rest) := by
  -- The symbols that another one starts with are followed by an equals sign in it.
  have other : ∀ after, rest ≠ '=' :: after := by
    rintro after rfl
    exact ends '=' rfl rfl
  cases symbol <;> simp [Symbol.text, symbol?]

/-- A token is read from the text it is written as, up to a character it ends before. -/
def ReadFrom (token : Token) (written : List Char) : Prop :=
  ∃ first text, written = first :: text ∧ Text.isBlank first = false ∧
    ∀ rest, (∀ c ∈ rest.head?, Ends token c) → Expr.token first (text ++ rest) = .ok (token, rest)

theorem readFrom_var {path : List String} (present : path ≠ []) (names : ∀ name ∈ path, IsName name) :
    ReadFrom (.var path) ('$' :: ['.'].intercalate (path.map String.toList)) := by
  refine ⟨_, _, rfl, by decide, fun rest ends => ?_⟩
  simp [Expr.token, path?_names present names ends]

private theorem readFrom_str {quote : Char} {body : List Char}
    (isQuote : quote = '\'' ∨ quote = '"') (escapes : Escapes quote body text) :
    ReadFrom (.str (String.ofList body)) (quote :: text ++ [quote]) := by
  have chars : quote ≠ '$' ∧ quote ≠ '\\' ∧ Text.isBlank quote = false := by
    rcases isQuote with rfl | rfl <;> decide
  obtain ⟨noDollar, noEscape, solid⟩ := chars
  refine ⟨_, _, List.cons_append, solid, fun rest _ => ?_⟩
  have read := stringBody_escapes noEscape escapes [] rest
  rw [List.append_assoc, List.singleton_append, Expr.token, if_neg noDollar, if_pos isQuote, read]
  rfl

private theorem readFrom_int {n : Nat} (below : n < Text.signedLimit64) :
    ReadFrom (.int n) (Nat.toDigits 10 n) := by
  have digit : ∀ c ∈ Nat.toDigits 10 n, c.isDigit := fun c => Json.isDigit_of_mem_digits
  have read := Text.natural_digits below
  obtain ⟨first, text, digits⟩ := List.exists_cons_of_ne_nil (@Nat.toDigits_ne_nil n 10)
  rw [digits] at digit read ⊢
  obtain ⟨here, later⟩ := List.forall_mem_cons.mp digit
  -- A digit may stand in a name, so it is no mark that another token begins with.
  have letter := isNameChar_of_isDigit here
  refine ⟨first, text, rfl, isBlank_of_isNameChar letter, fun rest ends => ?_⟩
  have ends' : ∀ c ∈ rest.head?, c.isDigit = false := fun c next =>
    Bool.eq_false_iff.mpr fun digit => absurd (isNameChar_of_isDigit digit) (by simp [(ends c next).1])
  have noQuote : ¬ (first = '\'' ∨ first = '"') :=
    not_or.mpr ⟨ne_of_isNameChar letter rfl, ne_of_isNameChar letter rfl⟩
  rw [Expr.token, if_neg (ne_of_isNameChar letter rfl), if_neg noQuote, if_pos here,
    Text.takeWhile_run later ends', Text.dropWhile_run later ends', read]

private theorem readFrom_name {more : List Char} (starts : isNameStart first)
    (within : ∀ c ∈ more, isNameChar c) :
    ReadFrom (.name (String.ofList (first :: more))) (first :: more) := by
  have letter := isNameChar_of_isNameStart starts
  refine ⟨first, more, rfl, isBlank_of_isNameChar letter, fun rest ends => ?_⟩
  have ends' : ∀ c ∈ rest.head?, isNameChar c = false := fun c next => (ends c next).1
  have noQuote : ¬ (first = '\'' ∨ first = '"') :=
    not_or.mpr ⟨ne_of_isNameChar letter rfl, ne_of_isNameChar letter rfl⟩
  rw [Expr.token, if_neg (ne_of_isNameChar letter rfl), if_neg noQuote,
    if_neg (by simp [isDigit_of_isNameStart starts]), if_pos starts,
    Text.takeWhile_run within ends', Text.dropWhile_run within ends']

theorem readFrom_symbol (symbol : Symbol) : ReadFrom (.symbol symbol) symbol.text := by
  have starts : ∃ first text, symbol.text = first :: text ∧ Text.isBlank first = false ∧
      first ∉ ['$', '\'', '"', '(', ')'] ∧ first.isDigit = false ∧ isNameStart first = false := by
    cases symbol <;> exact ⟨_, _, rfl, by decide⟩
  obtain ⟨first, text, whole, solid, special, noDigit, noName⟩ := starts
  refine ⟨first, text, whole, solid, fun rest ends => ?_⟩
  have read := symbol?_text symbol ends
  rw [whole] at read
  simp_all [Expr.token]

theorem readFrom_of_spells (spells : Spells token written) : ReadFrom token written := by
  cases spells with
  | var present names => exact readFrom_var present names
  | str isQuote escapes => exact readFrom_str isQuote escapes
  | int below => exact readFrom_int below
  | name starts within => exact readFrom_name starts within
  | symbol symbol => exact readFrom_symbol symbol
  | openParen | closeParen => exact ⟨_, _, rfl, by decide, fun rest _ => rfl⟩

/-! ### Reading tokens side by side -/

/-- Tokens that a letter or digit behind them would be part of. -/
def IsWord : Token → Prop
  | .var _ | .int _ | .name _ => True
  | _ => False

def IsSymbol : Token → Prop
  | .symbol _ => True
  | _ => False

/-- Two tokens that do not run into each other where they stand side by side. -/
def Apart (token next : Token) : Prop :=
  ¬ (IsWord token ∧ IsWord next) ∧ ¬ (IsSymbol token ∧ IsSymbol next)

/-- A text that consists of these tokens, with blanks before, between and behind them. -/
inductive Spaced : List Token → List Char → Prop where
  | nil {blanks : List Char} : (∀ c ∈ blanks, Text.isBlank c) → Spaced [] blanks
  | cons {blanks written text : List Char} {token : Token} {ts : List Token} :
      (∀ c ∈ blanks, Text.isBlank c) → Spells token written → Spaced ts text →
      Spaced (token :: ts) (blanks ++ (written ++ text))

private theorem ends_of_ne (token : Token) (noName : isNameChar c = false) (noPoint : c ≠ '.')
    (noEquals : c ≠ '=') : Ends token c := by
  cases token with
  | var | int | name => exact ⟨noName, noPoint⟩
  | symbol => exact noEquals
  | str | openParen | closeParen => trivial

theorem ends_of_blank (token : Token) (blank : Text.isBlank c) : Ends token c := by
  have noName : isNameChar c = false := Bool.eq_false_iff.mpr fun letter =>
    absurd blank (by simp [isBlank_of_isNameChar letter])
  refine ends_of_ne token noName ?_ ?_ <;> rintro rfl <;> exact absurd blank (by decide)

private theorem ends_of_isNameChar (notWord : ¬ IsWord token) (letter : isNameChar c) :
    Ends token c := by
  cases token with
  | var | int | name => exact absurd trivial notWord
  | symbol => exact ne_of_isNameChar letter rfl
  | str | openParen | closeParen => trivial

private theorem ends_of_symbol (notSymbol : ¬ IsSymbol token) {symbol : Symbol}
    (starts : c ∈ symbol.text.head?) : Ends token c := by
  cases token with
  | var | int | name => cases symbol <;> cases starts <;> exact ⟨rfl, by decide⟩
  | symbol => exact absurd trivial notSymbol
  | str | openParen | closeParen => trivial

/-- A token ends where one that is apart from it begins. -/
theorem ends_of_apart {next : Token} (apart : Apart token next) (spells : Spells next written)
    (starts : c ∈ written.head?) : Ends token c := by
  obtain ⟨words, symbols⟩ := apart
  cases spells with
  | var =>
    cases starts
    exact ends_of_ne token rfl (by decide) (by decide)
  | str isQuote =>
    cases starts
    rcases isQuote with rfl | rfl <;> exact ends_of_ne token rfl (by decide) (by decide)
  | int =>
    refine ends_of_isNameChar (fun isWord => words ⟨isWord, trivial⟩) (isNameChar_of_isDigit ?_)
    exact Json.isDigit_of_mem_digits (List.mem_of_mem_head? starts)
  | name letter =>
    cases starts
    exact ends_of_isNameChar (fun isWord => words ⟨isWord, trivial⟩)
      (isNameChar_of_isNameStart letter)
  | symbol => exact ends_of_symbol (fun isSymbol => symbols ⟨isSymbol, trivial⟩) starts
  | openParen | closeParen =>
    cases starts
    exact ends_of_ne token rfl (by decide) (by decide)

theorem Spaced.ends {ts : List Token} (spaced : Spaced ts text)
    (apart : ∀ next ∈ ts.head?, Apart token next) : ∀ c ∈ text.head?, Ends token c := by
  -- What follows is a blank, or the first character of the next token.
  intro c starts
  cases spaced with
  | nil blank => exact ends_of_blank token (blank c (List.mem_of_mem_head? starts))
  | @cons blanks written text next ts blank spells spaced =>
    cases blanks with
    | cons d blanks =>
      cases starts
      exact ends_of_blank token (blank c List.mem_cons_self)
    | nil =>
      obtain ⟨first, tail, rfl, -, -⟩ := readFrom_of_spells spells
      cases starts
      exact ends_of_apart (apart next rfl) spells rfl

private theorem tokensFrom_blanks {blanks : List Char} (blank : ∀ c ∈ blanks, Text.isBlank c)
    (size : Nat) : tokensFrom size (blanks ++ text) = tokensFrom size text := by
  induction blanks with
  | nil => rfl
  | cons c blanks ih =>
    obtain ⟨here, later⟩ := List.forall_mem_cons.mp blank
    rw [List.cons_append, tokensFrom, if_pos here, ih later]

/-- A text of tokens is cut into them. -/
theorem tokensFrom_of_spaced {ts : List Token} (spaced : Spaced ts text) (apart : ts.IsChain Apart)
    (size : Nat) : ∃ placed, tokensFrom size text = .ok placed ∧ placed.map Prod.snd = ts := by
  -- A token is read as it ends where the rest of the text begins.
  induction spaced with
  | nil blank =>
    have read := @tokensFrom_blanks [] _ blank size
    rw [List.append_nil, tokensFrom] at read
    exact ⟨[], read, rfl⟩
  | cons blank spells spaced ih =>
    obtain ⟨next, later⟩ := List.isChain_cons.mp apart
    obtain ⟨first, written, rfl, solid, read⟩ := readFrom_of_spells spells
    obtain ⟨placed, cut, same⟩ := ih later
    rw [tokensFrom_blanks blank, List.cons_append,
      tokensFrom_of_token solid (read _ (spaced.ends next)), cut]
    exact ⟨_, rfl, congrArg _ same⟩

end Expr

end Stencil
