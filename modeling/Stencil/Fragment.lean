import Stencil.Expr.Basic
import Stencil.Options

/-!
# Fragments

Compiled text: literal text with dynamic segments in between. Text that is added
joins a text segment it follows, so no two text segments stand side by side.
-/
namespace Stencil

inductive Segment where
  | text (s : String)
  /-- The value of an expression, escaped. -/
  | echo (expr : Expr)
  | assign (name : String) (expr : Expr)
  /-- The submitted value of a field, escaped. Without a submission a GET request
  shows the default and a POST request nothing. -/
  | fieldValue (name : String) (fallback : Option String)
  /-- The mark of a checkbox whose submitted value, or on a GET request without
  submission whose default, is `on`. -/
  | checked (name on : String) (fallback : Option String)
  /-- The mark of the radio button that carries `value`. -/
  | radioChecked (name value : String) (fallback : Option String)
  /-- The option elements of a select field, the submitted ones marked. -/
  | options (name : String) (source : OptionSource) (fallback : Option String) (multiple : Bool)
  /-- Shown only if validation left errors. -/
  | ifErrors (body : List Segment)
  /-- Repeated for every error, its name and message filled in. -/
  | eachError (template : String)

abbrev Fragment := List Segment

namespace Fragment

/-- Put text behind the last segment, or into it. -/
def pushNonempty (s : String) : Fragment → Fragment
  | [] => [.text s]
  | [.text last] => [.text (last ++ s)]
  | segment :: rest => segment :: pushNonempty s rest

def pushText (fragment : Fragment) (s : String) : Fragment :=
  if s.isEmpty then fragment else pushNonempty s fragment

def push (fragment : Fragment) : Segment → Fragment
  | .text s => fragment.pushText s
  | segment => fragment ++ [segment]

def append (fragment other : Fragment) : Fragment := other.foldl push fragment

def ofText (s : String) : Fragment := pushText [] s

/-- The literal text, without the dynamic segments. -/
def plainText : Fragment → String
  | [] => ""
  | .text s :: rest => s ++ plainText rest
  | _ :: rest => plainText rest

end Fragment

end Stencil
