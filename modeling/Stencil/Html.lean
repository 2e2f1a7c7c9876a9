import Stencil.Dict

/-!
# HTML text

Escaping data for element content and attribute values, and the attribute string
of an element.
-/
namespace Stencil.Html

def escapeChar : Char → List Char
  | '&' => "&amp;".toList
  | '<' => "&lt;".toList
  | '>' => "&gt;".toList
  | '"' => "&quot;".toList
  | '\'' => "&#39;".toList
  | c => [c]

def escape (s : String) : String := String.ofList (s.toList.flatMap escapeChar)

/-- Keys with a colon are directives of the compiler and not passed on. -/
def isAttribute (key : String) : Bool := !key.toList.contains ':'

/-- A blank, the key and the quoted value. The value stands as it is: it may still
hold placeholders. -/
def attributeText (key value : String) : String := " " ++ key ++ "=\"" ++ value ++ "\""

/-- The attribute string of an element, in key order. -/
def attributeString (attributes : Dict String) : String :=
  attributes.entries.foldl
    (fun done (key, value) => if isAttribute key then done ++ attributeText key value else done) ""

end Stencil.Html
