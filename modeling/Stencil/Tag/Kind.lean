import Stencil.Expr.Basic
import Stencil.Tag.Static

/-!
# Kinds of tags
-/
namespace Stencil

inductive TextKind where
  | text
  | password
  | hidden
  | email
  | url
  | textarea
  deriving DecidableEq

inductive ButtonKind where
  | button
  | submit
  | reset
  deriving DecidableEq

/-- What a tag is, with what it holds once it is initialized. -/
inductive TagKind where
  /-- The node that holds a whole template. -/
  | root
  /-- Holds the ids of the fields in it so far. -/
  | form (fieldIds : List String)
  | text (kind : TextKind)
  | checkbox
  | select (multiple : Bool)
  | radio
  | file
  /-- A condition on the submitted values that fields can refer to. -/
  | group (condition : Option Expr)
  | button (kind : ButtonKind)
  /-- The list of errors. -/
  | errors
  | staticIf (comparison : Option Comparison)
  | staticSet

namespace TagKind

def isForm : TagKind → Bool
  | .form _ => true
  | _ => false

/-- Tags that stand for a value of the form, or a control without one. A form does
not look inside them. -/
def isValueTag : TagKind → Bool
  | .text _ | .checkbox | .select _ | .radio | .file | .group _ | .button _ => true
  | _ => false

/-- Tags that validate a field. -/
def validates : TagKind → Bool
  | .text _ | .checkbox | .select _ | .radio | .file => true
  | _ => false

/-- Tags that decide whether what is in them is compiled. -/
def isConditional : TagKind → Bool
  | .staticIf _ => true
  | _ => false

/-- Whether a conditional lets its subtree be compiled; no decision for other tags.
One that was not initialized never does. -/
def passes? (statics : Statics) : TagKind → Option Bool
  | .staticIf comparison => some (comparison.any (·.holds statics))
  | _ => none

/-- Add a field id to those of a form, if it is not there yet. -/
def registerField? (id : String) : TagKind → Option TagKind
  | .form ids => if ids.contains id then none else some (.form (ids ++ [id]))
  | kind => some kind

end TagKind

end Stencil
