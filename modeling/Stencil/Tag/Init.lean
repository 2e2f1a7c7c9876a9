import Stencil.Arena
import Stencil.Config
import Stencil.Expr.Parser

/-!
# Initialization of tags

When a tag is opened its attributes are checked, defaults are added, fields and
groups register with the form around them, and static attributes are set.
-/
namespace Stencil

/-- A tag that is being opened, with what it may look at and change. -/
structure Opening where
  head : Head
  kind : TagKind
  parent : NodeId
  arena : Arena
  statics : Statics

namespace Opening

/-- The form around the tag. -/
def form? (opening : Opening) : Option (NodeId × Node) :=
  (opening.arena.findAncestor? (some opening.parent) fun node => node.kind.isForm).bind fun id =>
    (opening.arena.node? id).map fun node => (id, node)

/-- Register the id of a tag with the form around it. Gives that form's head. -/
def register (opening : Opening) : Except CompileError (Head × Opening) :=
  match opening.form? with
  | none => .error (.fieldOutsideForm opening.head.ref)
  | some (formId, form) => do
    let id ← opening.head.required "id"
    match form.kind.registerField? id with
    | none => .error (.duplicateFieldId form.head.ref id)
    | some kind =>
      let arena := opening.arena.update formId fun node => { node with kind }
      return (form.head, { opening with arena })

end Opening

/-- The messages for a missing and for an invalid value of a field. -/
structure FieldMessages where
  required : String
  invalid : String

namespace Messages

def forInput (messages : Messages) : FieldMessages :=
  ⟨messages.inputRequired, messages.inputInvalid⟩

def forSelect (messages : Messages) : FieldMessages :=
  ⟨messages.selectRequired, messages.selectInvalid⟩

def forFile (messages : Messages) : FieldMessages :=
  ⟨messages.fileRequired, messages.fileInvalid⟩

end Messages

/-- What mail addresses look like: a local part of plain characters or in quotes, then
an address in numbers or a host name under a known top-level domain. -/
def emailPattern : String := String.join [
  "(?i)^(?:[a-z0-9!#$%*/?|^\x7b\x7d\x60~&\x27+=_.-]+|\"(?:(?:\\\\\\\\)*\\\\\"|[^\\\\\"]+)*\")@",
  "(?:(?:(?:25[0-5]|2[0-4][0-9]|[01]?[0-9][0-9]?)\\.)\x7b3\x7d",
  "(?:25[0-5]|2[0-4][0-9]|[01]?[0-9][0-9]?)",
  "|(?:(?:[a-z0-9]+)(?:[a-z0-9-]*[a-z0-9])*\\.)+",
  "(?:arpa|com|edu|gov|int|mil|net|org|biz|info|name|pro|aero|coop|museum",
  "|travel|tel|mobi|jobs|[a-z]\x7b2\x7d))$"]

/-- What addresses with one of these protocols look like. -/
def urlPattern (protocols : List String) (optional : Bool) : String := String.join [
  "^((", "|".intercalate protocols, ")://)", if optional then "?" else "",
  "([\\w]+:\\w+@)?([a-zA-Z]\x7b1\x7d([\\w\\-]+\\.)+([\\w]\x7b2,5\x7d))",
  "(:[\\d]\x7b1,5\x7d)?((/?\\w+/)+|/?)(\\w+\\.[\\w]\x7b3,4\x7d)?",
  "((\\?\\w+=\\w+)?(&\\w+=\\w+)*)?"]

/-- The protocols an address field accepts. -/
def urlProtocols (head : Head) : List String :=
  [("x:ftp", "ftp", false), ("x:http", "http", true), ("x:https", "https", true)].filterMap
    fun (key, protocol, fallback) => if head.flag key fallback then some protocol else none

namespace Opening

/-- What all fields have in common: `name` defaults to the id, and `x:required` to that
of the form. -/
def initField (messages : FieldMessages) (opening : Opening) : Except CompileError Opening := do
  let (form, opening) ← opening.register
  let id ← opening.head.required "id"
  let head := opening.head
    |>.setDefault "name" id
    |>.setDefault "x:required" (form.attrD "x:required" "1")
    |>.setDefault "x:required-err" messages.required
    |>.setDefault "x:invalid-err" messages.invalid
  return { opening with head }

/-- A form stands in no other form, has an id, and a base type only if it is known. -/
def initForm (config : Config) (opening : Opening) : Except CompileError Opening := do
  if opening.form?.isSome then throw (.nestedForm opening.head.ref)
  let _ ← opening.head.required "id"
  match opening.head.attr? "x:extend" with
  | some base =>
    if !config.baseModels.contains base then throw (.unknownBaseType opening.head.ref base)
  | none => pure ()
  return { opening with head := opening.head.setDefault "x:required" "1" }

/-- Mail and address fields come with a pattern. -/
def initText (config : Config) (kind : TextKind) (opening : Opening) :
    Except CompileError Opening := do
  let opening ← opening.initField config.messages.forInput
  let head := match kind with
    | .email => opening.head.setAttr "x:pattern" emailPattern
    | .url => opening.head.setAttr "x:pattern"
        (urlPattern (urlProtocols opening.head) (opening.head.flag "x:noprotocol" false))
    | _ => opening.head
  return { opening with head }

def initCheckbox (config : Config) (opening : Opening) : Except CompileError Opening := do
  let opening ← opening.initField config.messages.forInput
  let _ ← opening.head.required "x:on"
  let _ ← opening.head.required "x:off"
  return opening

def initGroup (opening : Opening) : Except CompileError Opening := do
  let (_, opening) ← opening.register
  let source ← opening.head.required "cond"
  match Expr.parse source.toList with
  | .ok condition => return { opening with kind := .group (some condition) }
  | .error error => throw (.expression opening.head.location source error)

def init (config : Config) (opening : Opening) : Except CompileError Opening :=
  match opening.kind with
  | .root | .button _ | .errors => .ok opening
  | .form _ => opening.initForm config
  | .text kind => opening.initText config kind
  | .checkbox => opening.initCheckbox config
  | .select _ | .radio => opening.initField config.messages.forSelect
  | .file => opening.initField config.messages.forFile
  | .group _ => opening.initGroup
  | .staticIf _ => do
    let comparison ← Comparison.ofHead opening.head
    return { opening with kind := .staticIf (some comparison) }
  | .staticSet => do
    let statics ← opening.statics.set opening.head
    return { opening with statics }

end Opening

end Stencil
