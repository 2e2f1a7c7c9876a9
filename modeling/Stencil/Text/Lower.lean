import Stencil.Unicode.Case
import Stencil.Unicode.Property

/-!
# Text in lower case

A capital sigma at the end of a word becomes a final one; any other character is
mapped on its own.
-/
namespace Stencil.Text

def hasProperty (name : String) (c : Char) : Bool :=
  ((Unicode.property? name).getD []).containsCode c.toNat

/-- Whether the first character that does not go unnoticed between letters is cased. -/
def meetsCased (text : List Char) : Bool :=
  match text.dropWhile (hasProperty "caseignorable") with
  | [] => false
  | c :: _ => hasProperty "cased" c

/-- The text behind some characters, which are given last first, in lower case. -/
def lowerFrom (before : List Char) : List Char → List Char
  | [] => []
  | c :: rest =>
    let mapped :=
      if c = 'Σ' then (if meetsCased before && !meetsCased rest then ['ς'] else ['σ'])
      else Unicode.lower c
    mapped ++ lowerFrom (c :: before) rest

def lower (text : List Char) : List Char := lowerFrom [] text

end Stencil.Text
