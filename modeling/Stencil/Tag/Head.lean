import Stencil.CompileError
import Stencil.Html

/-!
# Tag heads

What a tag was written as: its name, its attributes and its place.
-/
namespace Stencil

structure Head where
  namespaceName : String
  name : String
  attributes : Dict String
  location : Location

namespace Head

def ref (head : Head) : TagRef := ⟨head.namespaceName, head.name, head.location⟩

def attr? (head : Head) (key : String) : Option String := head.attributes.get? key

def attrD (head : Head) (key fallback : String) : String := (head.attr? key).getD fallback

def required (head : Head) (key : String) : Except CompileError String :=
  match head.attr? key with
  | some value => .ok value
  | none => .error (.missingAttribute head.ref key)

/-- A present attribute is a true flag if it is `1`. -/
def flag (head : Head) (key : String) (fallback : Bool) : Bool :=
  match head.attr? key with
  | some value => value == "1"
  | none => fallback

def setAttr (head : Head) (key value : String) : Head :=
  { head with attributes := head.attributes.insert key value }

/-- Set an attribute that is not there yet. -/
def setDefault (head : Head) (key value : String) : Head :=
  if (head.attr? key).isSome then head else head.setAttr key value

/-- The attribute string of the element after some changes; `none` takes an
attribute away. -/
def htmlAttributes (head : Head) (changes : List (String × Option String)) : String :=
  Html.attributeString <| changes.foldl
    (fun attributes (key, value) =>
      match value with
      | some value => attributes.insert key value
      | none => attributes.erase key)
    head.attributes

end Head

end Stencil
