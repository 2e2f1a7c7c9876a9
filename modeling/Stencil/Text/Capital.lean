import Stencil.Unicode.Case

/-!
# Capitals
-/
namespace Stencil.Text

/-- The text with its first character in upper case. -/
def capitalized : List Char → List Char
  | [] => []
  | c :: rest => Unicode.upper c ++ rest

end Stencil.Text
