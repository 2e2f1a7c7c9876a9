import Stencil.Expr.Basic
import Stencil.Text.Blank
import Stencil.Text.Natural
import Stencil.Text.Offset

/-!
# Tokens of expressions

`Expr.tokens` cuts a text into tokens, each with the byte offset it starts at.
-/
namespace Stencil.Expr

inductive Symbol where
  | eq
  | ne
  | le
  | ge
  | and
  | or
  | lt
  | gt
  | bang
  | plus
  | minus
  | tilde
  | assign
  deriving DecidableEq

inductive Token where
  | var (path : List String)
  | str (s : String)
  | int (n : Nat)
  | name (s : String)
  | symbol (s : Symbol)
  | openParen
  | closeParen
  deriving DecidableEq

inductive Fault where
  | missingName
  | unterminatedString
  | integerRange
  | unexpectedCharacter
  | unexpectedEnd
  | bareName
  | expectedValue
  | expectedClose
  | trailing
  | notAssignment
  deriving DecidableEq

def Fault.message : Fault → String
  | .missingName => "expecting a name after '$' or '.'"
  | .unterminatedString => "unterminated string literal"
  | .integerRange => "integer literal out of range"
  | .unexpectedCharacter => "unexpected character"
  | .unexpectedEnd => "unexpected end of expression"
  | .bareName => "bare names are not allowed, use $name"
  | .expectedValue => "expecting a value"
  | .expectedClose => "expecting ')'"
  | .trailing => "unexpected trailing input"
  | .notAssignment => "expecting an assignment of the form \x60$name = expression\x60"

/-- What is wrong with a text and at which byte offset. -/
structure ParseError where
  position : Nat
  fault : Fault
  deriving DecidableEq

def ParseError.message (error : ParseError) : String :=
  error.fault.message ++ " at offset " ++ toString error.position

def isNameStart (c : Char) : Bool := c.isAlpha || c == '_'
def isNameChar (c : Char) : Bool := c.isAlphanum || c == '_'

/-- Names separated by points, and the rest of the text. `name` is the name being
read and `done` the ones before it, both in reverse. -/
def path? (name : List Char) (done : List String) : List Char → Option (List String × List Char)
  | [] => if name.isEmpty then none else some ((String.ofList name.reverse :: done).reverse, [])
  | c :: rest =>
    if isNameChar c then path? (c :: name) done rest
    else if name.isEmpty then none
    else if c = '.' then path? [] (String.ofList name.reverse :: done) rest
    else some ((String.ofList name.reverse :: done).reverse, c :: rest)

private theorem path?_length {name : List Char} {done path : List String} {text rest : List Char}
    (read : path? name done text = some (path, rest)) : rest.length ≤ text.length := by
  fun_induction path? name done text <;> simp_all <;> omega

/-- The characters up to the closing quote, and the rest of the text. A backslash
stands for the character after it. -/
def stringBody (quote : Char) (done : List Char) : List Char → Option (List Char × List Char)
  | [] => none
  | ['\\'] => none
  | '\\' :: c :: rest => stringBody quote (c :: done) rest
  | c :: rest => if c = quote then some (done.reverse, rest) else stringBody quote (c :: done) rest

private theorem stringBody_length {quote : Char} {done body text rest : List Char}
    (read : stringBody quote done text = some (body, rest)) : rest.length ≤ text.length := by
  fun_induction stringBody quote done text <;> simp_all <;> omega

/-- The symbol a text starts with, the longest one, and the rest. -/
def symbol? : List Char → Option (Symbol × List Char)
  | '=' :: '=' :: rest => some (.eq, rest)
  | '!' :: '=' :: rest => some (.ne, rest)
  | '<' :: '=' :: rest => some (.le, rest)
  | '>' :: '=' :: rest => some (.ge, rest)
  | '&' :: '&' :: rest => some (.and, rest)
  | '|' :: '|' :: rest => some (.or, rest)
  | '<' :: rest => some (.lt, rest)
  | '>' :: rest => some (.gt, rest)
  | '!' :: rest => some (.bang, rest)
  | '+' :: rest => some (.plus, rest)
  | '-' :: rest => some (.minus, rest)
  | '~' :: rest => some (.tilde, rest)
  | '=' :: rest => some (.assign, rest)
  | _ => none

private theorem symbol?_shorter {text rest : List Char} {symbol : Symbol}
    (read : symbol? text = some (symbol, rest)) : rest.length < text.length := by
  unfold symbol? at read
  split at read <;> simp only [Option.some.injEq, Prod.mk.injEq, reduceCtorEq] at read
  all_goals
    obtain ⟨-, rfl⟩ := read
    simp only [List.length_cons]
    omega

/-- The token that starts with a character that is no blank, and the rest of the
text behind it. -/
def token (c : Char) (rest : List Char) : Except Fault (Token × List Char) :=
  if c = '$' then
    match path? [] [] rest with
    | some (path, rest) => .ok (.var path, rest)
    | none => .error .missingName
  else if c = '\'' ∨ c = '"' then
    match stringBody c [] rest with
    | some (body, rest) => .ok (.str (String.ofList body), rest)
    | none => .error .unterminatedString
  else if c.isDigit then
    match Text.natural Text.signedLimit64 (c :: rest.takeWhile Char.isDigit) with
    | .ok n => .ok (.int n, rest.dropWhile Char.isDigit)
    | .error _ => .error .integerRange
  else if isNameStart c then
    .ok (.name (String.ofList (c :: rest.takeWhile isNameChar)), rest.dropWhile isNameChar)
  else if c = '(' then .ok (.openParen, rest)
  else if c = ')' then .ok (.closeParen, rest)
  else
    match symbol? (c :: rest) with
    | some (symbol, rest) => .ok (.symbol symbol, rest)
    | none => .error .unexpectedCharacter

private theorem token_length {c : Char} {text rest : List Char} {t : Token}
    (read : token c text = .ok (t, rest)) : rest.length ≤ text.length := by
  have shrink (p : Char → Bool) : (text.dropWhile p).length ≤ text.length :=
    (List.dropWhile_sublist p).length_le
  unfold token at read
  -- In the order in which a token is looked for, each branch takes away from the text.
  split at read
  · split at read <;> simp_all
    next found => obtain ⟨-, rfl⟩ := read; exact path?_length found
  · split at read
    · split at read <;> simp_all
      next found => obtain ⟨-, rfl⟩ := read; exact stringBody_length found
    · split at read
      · split at read <;> simp_all
        obtain ⟨-, rfl⟩ := read; exact shrink _
      · split at read
        · simp only [Except.ok.injEq, Prod.mk.injEq] at read
          obtain ⟨-, rfl⟩ := read; exact shrink _
        · split at read
          · simp_all
          · split at read
            · simp_all
            · split at read <;> simp_all
              next found =>
                obtain ⟨-, rfl⟩ := read
                have := symbol?_shorter found
                simp only [List.length_cons] at this; omega

/-- The tokens of the end of a text of `size` bytes, with their offsets. -/
def tokensFrom (size : Nat) : List Char → Except ParseError (List (Nat × Token))
  | [] => .ok []
  | c :: rest =>
    if Text.isBlank c then tokensFrom size rest
    else
      let position := size - Text.byteSize (c :: rest)
      match read : token c rest with
      | .ok (t, after) =>
        have := token_length read
        (tokensFrom size after).map ((position, t) :: ·)
      | .error fault => .error ⟨position, fault⟩
  termination_by text => text.length
  decreasing_by all_goals simp_all only [List.length_cons]; omega

def tokens (text : List Char) : Except ParseError (List (Nat × Token)) :=
  tokensFrom (Text.byteSize text) text

end Stencil.Expr
