import Stencil.Tag.Validation
import Stencil.Text.Caseless

/-!
# What tags leave behind

A tag that is closed is replaced by a fragment in the body of the tag around it.
-/
namespace Stencil

namespace TextKind

def inputType : TextKind → String
  | .text | .email | .url => "text"
  | .password => "password"
  | .hidden => "hidden"
  | .textarea => "textarea"

end TextKind

namespace ButtonKind

def inputType : ButtonKind → String
  | .button => "button"
  | .submit => "submit"
  | .reset => "reset"

end ButtonKind

namespace Node

/-- Attributes of the element of a text field that differ from those of the tag. -/
def textChanges (head : Head) : List (String × Option String) :=
  ("value", none)
    :: (head.attr? "x:maxlen").toList.map (fun bound => ("maxlength", some bound))
    ++ if head.flag "x:readonly" false then [("readonly", some "readonly")] else []

/-- The value of a password field is never shown. -/
def renderText (head : Head) (kind : TextKind) : Fragment :=
  let value : Segment := .fieldValue head.fieldName (head.attr? "x:default")
  let changes := textChanges head
  match kind with
  | .textarea =>
    Fragment.ofText ("<textarea" ++ head.htmlAttributes changes ++ ">")
      |>.push value
      |>.pushText "</textarea>"
  | kind =>
    let element := Fragment.ofText
      ("<input" ++ head.htmlAttributes (changes ++ [("type", some kind.inputType)]))
    if kind = .password then element.pushText ">"
    else element.pushText " value=\"" |>.push value |>.pushText "\">"

def renderCheckbox (head : Head) : Fragment :=
  let on := head.attrD "x:on" ""
  let attributes := head.htmlAttributes [("type", some "checkbox"), ("value", none)]
  Fragment.ofText ("<input" ++ attributes ++ " value=\"" ++ Html.escape on ++ "\"")
    |>.push (.checked head.fieldName on (head.attr? "x:default"))
    |>.pushText ">"

/-- The caption of the empty first option, if there is one. -/
def firstCaption? (messages : Messages) (head : Head) : Option String :=
  let noFirst := head.flag "x:nofirst" false
  match head.attr? "x:first" with
  | some caption => some caption
  | none =>
    if !noFirst && head.attr? "x:required" == some "1" then some messages.selectChoose
    else if !noFirst || head.attr? "x:required" == some "0" then some messages.selectAny
    else none

def firstOption (messages : Messages) (head : Head) : String :=
  match firstCaption? messages head with
  | some caption => "<option value=\"\">" ++ Html.escape caption ++ "</option>"
  | none => ""

def renderSelect (messages : Messages) (node : Node) (multiple : Bool) : Fragment :=
  let head := node.head
  let name := head.fieldName
  let start :=
    if multiple then
      "<select" ++ head.htmlAttributes [("name", none), ("multiple", none)]
        ++ " name=\"" ++ name ++ "[]\" multiple=\"multiple\">\n"
    else "<select" ++ head.htmlAttributes [] ++ ">\n"
  Fragment.ofText (start ++ firstOption messages head ++ "\n")
    |>.push (.options name node.selectSource (head.attr? "x:default") multiple)
    |>.pushText "</select>"

/-- The button of a radio field that carries a value. -/
def radioButton (head : Head) (index : Nat) (value : String) (fragment : Fragment) : Fragment :=
  let attributes := head.htmlAttributes [("id", none), ("type", some "radio"), ("value", none)]
  let id := head.attrD "id" "" ++ "_" ++ toString index
  fragment
    |>.pushText ("<input" ++ attributes ++ " id=\"" ++ id ++ "\" value=\"" ++ Html.escape value ++ "\"")
    |>.push (.radioChecked head.fieldName value (head.attr? "x:default"))
    |>.pushText ">"

/-- Text with buttons in place of its bracketed parts, behind a fragment. -/
def radioText (head : Head) (index : Nat) (fragment : Fragment) :
    List Bracketed → List Char → Fragment × Nat
  | [], tail => (fragment.pushText (String.ofList tail), index)
  | part :: rest, tail =>
    let fragment := radioButton head index (String.ofList part.inner)
      (fragment.pushText (String.ofList part.before))
    radioText head (index + 1) fragment rest tail

def radioFrom (head : Head) (index : Nat) (fragment : Fragment) : List Segment → Fragment
  | [] => fragment
  | .text s :: rest =>
    let (parts, tail) := filledBrackets s.toList
    let (fragment, index) := radioText head index fragment parts tail
    radioFrom head index fragment rest
  | segment :: rest => radioFrom head index (fragment.push segment) rest

/-- The body with a button in place of every bracketed text. -/
def renderRadio (node : Node) : Fragment := radioFrom node.head 0 [] node.body

def renderFile (head : Head) : Fragment :=
  Fragment.ofText ("<input" ++ head.htmlAttributes [("type", some "file"), ("value", none)] ++ ">")

def renderButton (head : Head) (kind : ButtonKind) : Fragment :=
  Fragment.ofText ("<input" ++ head.htmlAttributes [("type", some kind.inputType)] ++ ">")

/-- The text before, in and behind the first error template of a text. -/
def errorTemplate? (text : List Char) : Option (List Char × List Char × List Char) := do
  let (before, rest) ← Text.splitAtFirstCaseless "[error]".toList text
  let (template, after) ← Text.splitAtFirstCaseless "[/error]".toList rest
  return (before, template, after)

/-- The first error template in the text of a body is repeated per error. -/
def errorsFrom (fragment : Fragment) : List Segment → Fragment
  | [] => fragment
  | .text s :: rest =>
    match errorTemplate? s.toList with
    | some (before, template, after) =>
      rest.foldl Fragment.push <|
        fragment.pushText (String.ofList before)
          |>.push (.eachError (String.ofList template))
          |>.pushText (String.ofList after)
    | none => errorsFrom (fragment.pushText s) rest
  | segment :: rest => errorsFrom (fragment.push segment) rest

def renderErrors (node : Node) : Fragment := [.ifErrors (errorsFrom [] node.body)]

def renderForm (node : Node) : Fragment :=
  Fragment.ofText ("<form" ++ node.head.htmlAttributes [] ++ ">\n")
    |>.append node.body
    |>.pushText "</form>"

def render (messages : Messages) (node : Node) : Fragment :=
  match node.kind with
  | .root | .staticIf _ | .staticSet => node.body
  | .form _ => node.renderForm
  | .text kind => renderText node.head kind
  | .checkbox => renderCheckbox node.head
  | .select multiple => node.renderSelect messages multiple
  | .radio => node.renderRadio
  | .file => renderFile node.head
  | .group _ => []
  | .button kind => renderButton node.head kind
  | .errors => node.renderErrors

/-- The form of a form tag; other tags have none. -/
def form? (messages : Messages) (arena : Arena) (node : Node) :
    Except CompileError (Option Form) :=
  if node.kind.isForm then (Form.ofNode messages arena node).map some else .ok none

end Node

end Stencil
