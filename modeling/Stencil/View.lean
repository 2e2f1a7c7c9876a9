import Stencil.Expr.Eval
import Stencil.Fragment
import Stencil.Html
import Stencil.Text.Search

/-!
# Views

A view is a compiled template. Rendering writes its segments in order; an
assignment is seen by the segments behind it, also by those outside of the
conditional part it stands in.
-/
namespace Stencil

structure View where
  source : String
  body : Fragment

namespace View

/-- What rendering reads: the request, the errors, and the values assigned so far. -/
structure Context where
  request : Request
  errors : Dict String

/-- Assigned values come first, then `params`, `errors` and `method`, then the
request attributes. -/
def scope (context : Context) (locals : Dict Value) : Scope
  | [] => none
  | first :: rest =>
    match locals.get? first with
    | some value => value.lookupPath rest
    | none =>
      if first = "params" then (Value.ofDict context.request.params).lookupPath rest
      else if first = "errors" then
        (Value.ofDict (context.errors.map fun _ message => .string message)).lookupPath rest
      else if first = "method" ∧ rest = [] then some (.string context.request.method.text)
      else (context.request.attribs.get? first).bind fun value => value.lookupPath rest

/-- The value a single-valued field shows. -/
def fieldValue (request : Request) (name : String) (fallback : Option String) : String :=
  match request.params.get? name with
  | none =>
    match request.method with
    | .get => fallback.getD ""
    | .post => ""
  | some (.string s) => s
  | some _ => ""

def isChecked (request : Request) (name on : String) (fallback : Option String) : Bool :=
  match request.params.get? name with
  | some (.string s) => s == on
  | some _ => false
  | none => request.method == .get && fallback == some on

/-- The values of a select field that are marked. -/
def selectedValues (request : Request) (name : String) (fallback : Option String)
    (multiple : Bool) : List String :=
  if multiple then
    match request.params.get? name with
    | some (.array items) => items.map Value.text
    | _ => []
  else [fieldValue request name fallback]

def checkedMark : String := " checked=\"checked\""
def selectedMark : String := " selected=\"selected\""

def optionElement (selected : List String) (option : SelectOption) : String :=
  "<option value=\"" ++ Html.escape option.value ++ "\""
    ++ (if selected.contains option.value then selectedMark else "")
    ++ ">" ++ Html.escape option.title ++ "</option>\n"

/-- An error template with its name and message filled in, the name first. -/
def fillError (template name message : String) : String :=
  let named := Text.replaceAll "%param".toList (Html.escape name).toList template.toList
  String.ofList (Text.replaceAll "%error".toList (Html.escape message).toList named)

mutual
/-- The text of a segment and the assigned values behind it. -/
def renderSegment (context : Context) (locals : Dict Value) : Segment → String × Dict Value
  | .text s => (s, locals)
  | .echo expr => (Html.escape (expr.eval (scope context locals)).text, locals)
  | .assign name expr => ("", locals.insert name (expr.eval (scope context locals)))
  | .fieldValue name fallback => (Html.escape (fieldValue context.request name fallback), locals)
  | .checked name on fallback =>
    (if isChecked context.request name on fallback then checkedMark else "", locals)
  | .radioChecked name value fallback =>
    (if fieldValue context.request name fallback = value then checkedMark else "", locals)
  | .options name source fallback multiple =>
    let selected := selectedValues context.request name fallback multiple
    (String.join ((source.resolve context.request).map (optionElement selected)), locals)
  | .ifErrors body => if context.errors.isEmpty then ("", locals) else renderFrom context locals body
  | .eachError template =>
    (String.join (context.errors.entries.map fun error => fillError template error.1 error.2), locals)

def renderFrom (context : Context) (locals : Dict Value) : List Segment → String × Dict Value
  | [] => ("", locals)
  | segment :: rest =>
    let (text, locals) := renderSegment context locals segment
    let (after, locals) := renderFrom context locals rest
    (text ++ after, locals)
end

/-- The text of a view for a request and the errors of its validation. -/
def render (view : View) (request : Request) (errors : Dict String) : String :=
  (renderFrom ⟨request, errors⟩ .empty view.body).1

end View

end Stencil
