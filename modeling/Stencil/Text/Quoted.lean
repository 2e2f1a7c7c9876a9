import Stencil.Unicode.Letter

/-!
# Quoted texts in messages

Messages show texts in double quotes. What would not show, or would combine with
the quote, is written as its code point.
-/
namespace Stencil.Text

/-- Lower-case hexadecimal digits without padding. -/
def hexDigits (n : Nat) : List Char := (Nat.toDigits 16 n).map Char.toLower

def codeEscape (c : Char) : List Char :=
  '\\' :: 'u' :: '{' :: hexDigits c.toNat ++ ['}']

/-- Whether a character is shown as it is. -/
def isShown (c : Char) : Bool :=
  if c.toNat < 0x80 then 0x20 ≤ c.toNat && c.toNat < 0x7F
  else
    let category := Unicode.Category.ofCodePoint c.toNat
    !category.isOther && !category.isSeparator && !Unicode.isGraphemeExtend c

def quoteChar : Char → List Char
  | '\t' => ['\\', 't']
  | '\r' => ['\\', 'r']
  | '\n' => ['\\', 'n']
  | '"' => ['\\', '"']
  | '\\' => ['\\', '\\']
  | '\x00' => ['\\', '0']
  | c => if isShown c then [c] else codeEscape c

def quoted (s : String) : String :=
  String.ofList ('"' :: s.toList.flatMap quoteChar ++ ['"'])

end Stencil.Text
