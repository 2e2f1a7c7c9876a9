import Stencil.Regex.Parser
import Stencil.Text.Blank

/-!
# Patterns of fields

A pattern is a regular expression, or one between delimiters with flags behind it,
as in `/^[a-z]+$/i`.
-/
namespace Stencil.Pattern

def isDelimiter (c : Char) : Bool :=
  !Unicode.isAlphanumeric c && !Text.isBlank c && c != '\\' && c != '^' && c != '(' && c != '['

/-- The character that closes what a delimiter opens. -/
def closing : Char → Char
  | '{' => '}'
  | '<' => '>'
  | c => c

def isFlag (c : Char) : Bool := c == 'i' || c == 'm' || c == 's' || c == 'x' || c == 'U'

/-- Cut a text at the last occurrence of a character. -/
def splitAtLast (c : Char) (text : List Char) : Option (List Char × List Char) :=
  match text.reverse.dropWhile (· ≠ c) with
  | [] => none
  | _ :: before => some (before.reverse, (text.reverse.takeWhile (· ≠ c)).reverse)

/-- The regular expression a pattern stands for. Flags stand in front of it; what else
is written behind the closing delimiter does not count. Without delimiters a pattern
is the expression itself. -/
def expressionText : List Char → List Char
  | [] => []
  | c :: rest =>
    if isDelimiter c then
      match splitAtLast (closing c) rest with
      | some (body, tail) =>
        let flags := tail.filter isFlag
        if flags.isEmpty then body else '(' :: '?' :: flags ++ ')' :: body
      | none => c :: rest
    else c :: rest

/-- The regular expression of a pattern, if it is well-formed. -/
def regex? (pattern : String) : Option Regex :=
  Regex.parse (String.ofList (expressionText pattern.toList))

end Stencil.Pattern
