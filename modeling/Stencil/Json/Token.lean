import Stencil.Json.Numeral

/-!
# JSON tokens

`Json.tokens` cuts a text into brackets, separators and scalars, or refuses it
at the first character that starts none of them.
-/
namespace Stencil.Json

inductive Token where
  | openArray
  | closeArray
  | openObject
  | closeObject
  | comma
  | colon
  | scalar (value : Value)

def isBlank (c : Char) : Bool := c == ' ' || c == '\t' || c == '\n' || c == '\r'

def hexValue? (c : Char) : Option Nat :=
  if c.isDigit then some (c.toNat - '0'.toNat)
  else if 'a' ≤ c ∧ c ≤ 'f' then some (c.toNat - 'a'.toNat + 10)
  else if 'A' ≤ c ∧ c ≤ 'F' then some (c.toNat - 'A'.toNat + 10)
  else none

def hexUnit? (a b c d : Char) : Option Nat := do
  return (((← hexValue? a) * 16 + (← hexValue? b)) * 16 + (← hexValue? c)) * 16 + (← hexValue? d)

/-- What a backslash and a letter stand for. -/
def unescape? : Char → Option Char
  | '"' => some '"'
  | '\\' => some '\\'
  | '/' => some '/'
  | 'b' => some '\x08'
  | 'f' => some '\x0c'
  | 'n' => some '\n'
  | 'r' => some '\r'
  | 't' => some '\t'
  | _ => none

def isHighSurrogate (unit : Nat) : Bool := 0xD800 ≤ unit && unit < 0xDC00
def isLowSurrogate (unit : Nat) : Bool := 0xDC00 ≤ unit && unit < 0xE000

/-- The characters up to the closing quote and the text after it. A high surrogate
waits for the low surrogate that has to follow it. -/
def stringBody : Option Nat → List Char → List Char → Option (List Char × List Char)
  | none, done, '"' :: rest => some (done.reverse, rest)
  | pending, done, '\\' :: 'u' :: a :: b :: c :: d :: rest =>
    match hexUnit? a b c d, pending with
    | some unit, none =>
      if isHighSurrogate unit then stringBody (some unit) done rest
      else if isLowSurrogate unit then none
      else stringBody none (Char.ofNat unit :: done) rest
    | some unit, some high =>
      if isLowSurrogate unit then
        let code := 0x10000 + (high - 0xD800) * 0x400 + (unit - 0xDC00)
        stringBody none (Char.ofNat code :: done) rest
      else none
    | none, _ => none
  | none, done, '\\' :: letter :: rest =>
    match unescape? letter with
    | some c => stringBody none (c :: done) rest
    | none => none
  | none, done, c :: rest =>
    if c.toNat < 0x20 ∨ c = '\\' then none else stringBody none (c :: done) rest
  | _, _, _ => none

private theorem stringBody_shorter {pending : Option Nat} {done text body rest : List Char}
    (read : stringBody pending done text = some (body, rest)) : rest.length < text.length := by
  fun_induction stringBody pending done text <;> simp_all <;> omega

/-- The scalar words, and the rest of a text that starts with one. -/
def word : List Char → Option (Value × List Char)
  | 'n' :: 'u' :: 'l' :: 'l' :: rest => some (.null, rest)
  | 't' :: 'r' :: 'u' :: 'e' :: rest => some (.bool true, rest)
  | 'f' :: 'a' :: 'l' :: 's' :: 'e' :: rest => some (.bool false, rest)
  | _ => none

private theorem word_shorter {text rest : List Char} {value : Value}
    (read : word text = some (value, rest)) : rest.length < text.length := by
  unfold word at read
  split at read <;> simp_all <;> obtain ⟨-, rfl⟩ := read <;> omega

def bracket? : Char → Option Token
  | '[' => some .openArray
  | ']' => some .closeArray
  | '{' => some .openObject
  | '}' => some .closeObject
  | ',' => some .comma
  | ':' => some .colon
  | _ => none

/-- The tokens of a text. -/
def tokens : List Char → Option (List Token)
  | [] => some []
  | c :: rest =>
    if isBlank c then tokens rest
    else match bracket? c with
    | some token => (tokens rest).map (token :: ·)
    | none =>
      if c = '"' then
        match read : stringBody none [] rest with
        | some (body, after) =>
          have := stringBody_shorter read
          (tokens after).map (.scalar (.string (String.ofList body)) :: ·)
        | none => none
      else if c = '-' ∨ c.isDigit then
        match read : numeral? (c :: rest) with
        | some (numeral, after) =>
          have := numeral?_shorter read
          numeral.number?.bind fun n => (tokens after).map (.scalar (.number n) :: ·)
        | none => none
      else
        match read : word (c :: rest) with
        | some (value, after) =>
          have := word_shorter read
          (tokens after).map (.scalar value :: ·)
        | none => none
  termination_by text => text.length
  decreasing_by all_goals simp_all only [List.length_cons] <;> omega

end Stencil.Json
