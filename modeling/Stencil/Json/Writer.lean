import Stencil.Double.Decimal
import Stencil.Value

/-!
# Compact JSON text

`Json.write` writes a value without any blanks. Inside strings only quotes,
backslashes and control characters are escaped.
-/
namespace Stencil

def Number.text : Number → List Char
  | .integer i => (toString i).toList
  | .double d => d.text?.getD "null".toList

namespace Json

/-- A hexadecimal digit in lower case. -/
def hexDigit (n : Nat) : Char := (Nat.digitChar (n % 16)).toLower

/-- Escapes with a letter, by the character they stand for. -/
def letterEscape? : Char → Option Char
  | '"' => some '"'
  | '\\' => some '\\'
  | '\x08' => some 'b'
  | '\x0c' => some 'f'
  | '\n' => some 'n'
  | '\r' => some 'r'
  | '\t' => some 't'
  | _ => none

def escapeChar (c : Char) : List Char :=
  match letterEscape? c with
  | some letter => ['\\', letter]
  | none =>
    if c.toNat < 0x20 then ['\\', 'u', '0', '0', hexDigit (c.toNat / 16), hexDigit c.toNat]
    else [c]

def quote (text : List Char) : List Char := '"' :: text.flatMap escapeChar ++ ['"']

mutual
def write : Value → List Char
  | .null => ['n', 'u', 'l', 'l']
  | .bool true => ['t', 'r', 'u', 'e']
  | .bool false => ['f', 'a', 'l', 's', 'e']
  | .number n => n.text
  | .string s => quote s.toList
  | .array items => '[' :: writeItems items ++ [']']
  | .object members => '{' :: writeMembers members ++ ['}']

def writeItems : List Value → List Char
  | [] => []
  | [v] => write v
  | v :: next :: rest => write v ++ ',' :: writeItems (next :: rest)

def writeMembers : List (String × Value) → List Char
  | [] => []
  | [(key, v)] => quote key.toList ++ ':' :: write v
  | (key, v) :: next :: rest => quote key.toList ++ ':' :: write v ++ ',' :: writeMembers (next :: rest)
end

def text (value : Value) : String := String.ofList (write value)

end Json

end Stencil
