import Stencil.Arena
import Stencil.Config
import Stencil.Form
import Stencil.Pattern

/-!
# From tags to field validation

The validator of a field follows from the attributes of its tag and, for fields with
options, from its body. A form collects the validators of the fields in it.
-/
namespace Stencil

namespace Head

/-- The name a field is submitted under. -/
def fieldName (head : Head) : String := head.attrD "name" ""

/-- An attribute that bounds something, with its value as written. -/
def bound? {α β : Type} (read : List Char → Except β α) (fault : String → β → AttributeFault)
    (head : Head) (key : String) : Except CompileError (Option (α × String)) :=
  match head.attr? key with
  | none => .ok none
  | some written =>
    match read (Text.trim written.toList) with
    | .ok bound => .ok (some (bound, written))
    | .error error => .error (.invalidAttribute head.ref key (fault written error))

def naturalBound? : Head → String → Except CompileError (Option (Nat × String)) :=
  bound? Text.natural64 .natural

def doubleBound? : Head → String → Except CompileError (Option (Double × String)) :=
  bound? Double.parse .double

/-- A message in which `%` stands for a value. -/
def message (head : Head) (key fallback value : String) : String :=
  String.ofList (Text.replaceAll ['%'] value.toList (head.attrD key fallback).toList)

/-- The initializer that drops markup, unless it is allowed. -/
def markupInitializers (head : Head) : List Initializer :=
  if head.flag "x:nohtml" true then [.stripMarkup] else []

def removeInitializers (head : Head) : List Initializer :=
  match head.attr? "x:remove" with
  | some chars => [.removeChars chars]
  | none => []

def keepInitializers (head : Head) : List Initializer :=
  match head.attr? "x:keep" with
  | some chars => [.keepChars chars]
  | none => []

def requiredRule (head : Head) : Rule :=
  .required (head.flag "x:required" true) (head.attr? "x:group") (head.attrD "x:required-err" "")

def invalidMessage (head : Head) : String := head.attrD "x:invalid-err" ""

/-- The rule of a bound, if there is one. -/
def boundRule {α : Type} (head : Head) (make : α → String → Rule) (key fallback : String) :
    Option (α × String) → List Rule
  | some (bound, written) => [make bound (head.message key fallback written)]
  | none => []

/-- The rule of a pattern. It has to be a regular expression. -/
def patternRules (head : Head) : Except CompileError (List Rule) :=
  match head.attr? "x:pattern" with
  | none => .ok []
  | some written =>
    match Pattern.regex? written with
    | some _ => .ok [.pattern written (head.message "x:pattern-err" "Invalid format" written)]
    | none => .error (.invalidAttribute head.ref "x:pattern" .pattern)

/-- The size of a number has a bound only where digits are expected. -/
def numberRules (head : Head) (bounded : Bool) : List Rule :=
  if bounded then [.number (head.attrD "x:number-err" "Invalid number")] else []

def textValidator (head : Head) (kind : TextKind) : Except CompileError FieldValidator := do
  let minLength ← head.naturalBound? "x:minlen"
  let maxLength ← head.naturalBound? "x:maxlen"
  let minSize ← head.doubleBound? "x:minsize"
  let maxSize ← head.doubleBound? "x:maxsize"
  let patternRules ← head.patternRules
  return {
    name := head.fieldName
    initializers := [.getValue, .ensureString, .stripControl (kind == .textarea)]
      ++ head.markupInitializers ++ head.removeInitializers ++ head.keepInitializers
    rules := head.requiredRule
      :: head.boundRule .minLength "x:minlen-err" "Minimum of % characters" minLength
      ++ head.boundRule .maxLength "x:maxlen-err" "Maximum of % characters" maxLength
      ++ head.numberRules (minSize.isSome || maxSize.isSome)
      ++ head.boundRule .minSize "x:minsize-err" "Minimum size of %" minSize
      ++ head.boundRule .maxSize "x:maxsize-err" "Maximum size of %" maxSize
      ++ patternRules }

def checkboxValidator (head : Head) : FieldValidator where
  name := head.fieldName
  initializers := [.getValue, .ensureString] ++ head.markupInitializers ++ head.removeInitializers
  rules := [.checkboxOnOff (head.attrD "x:on" "") (head.attrD "x:off" "")]

def selectValidator (head : Head) (source : OptionSource) : FieldValidator where
  name := head.fieldName
  initializers := [.getValue, .ensureString] ++ head.removeInitializers
  rules := [head.requiredRule, .inOptions source head.invalidMessage]

/-- A field for several options keeps whatever was submitted if it is not required. -/
def multiSelectValidator (head : Head) (source : OptionSource) : FieldValidator where
  name := head.fieldName
  initializers := [.getValue, .ensureList]
  rules := head.requiredRule ::
    if head.flag "x:required" true then [.allInOptions source head.invalidMessage] else []

def radioValidator (head : Head) (source : OptionSource) : FieldValidator where
  name := head.fieldName
  initializers := [.getValue, .ensureString] ++ head.markupInitializers ++ head.removeInitializers
  rules := [head.requiredRule, .inOptions source head.invalidMessage]

/-- An upload in a group is required whenever its group holds. -/
def fileValidator (head : Head) (messages : Messages) : Except CompileError FieldValidator := do
  let group := head.attr? "x:group"
  let minSize ← head.naturalBound? "x:minsize"
  let maxSize ← head.naturalBound? "x:maxsize"
  return {
    name := head.fieldName
    initializers := [.getFile]
    rules := [
        .fileRequired (head.flag "x:required" true || group.isSome) group
          (head.attrD "x:required-err" messages.fileRequired),
        .uploadError (head.attrD "x:upload-err" messages.fileInvalid)
          (head.attrD "x:maxsize-err" "File is too big")]
      ++ head.boundRule .minFileSize "x:minsize-err" "File is too small" minSize
      ++ head.boundRule .maxFileSize "x:maxsize-err" "File is too big" maxSize }

end Head

namespace Node

/-- The options of a select field: a request attribute, or what its body lists. -/
def selectSource (node : Node) : OptionSource :=
  match node.head.attr? "x:bind" with
  | some attrib =>
    .bound attrib (node.head.attrD "x:titlekey" "title") (node.head.attrD "x:valuekey" "value")
  | none => .fixed (parseOptions node.body.plainText.toList)

/-- The options of a radio field: every bracketed text in its body. -/
def radioSource (node : Node) : OptionSource :=
  .fixed ((radioValues node.body.plainText.toList).map fun value => ⟨value, value⟩)

/-- The validator of a field; other tags have none. -/
def validator? (messages : Messages) (node : Node) : Except CompileError (Option FieldValidator) :=
  match node.kind with
  | .text kind => (node.head.textValidator kind).map some
  | .checkbox => .ok (some node.head.checkboxValidator)
  | .select false => .ok (some (node.head.selectValidator node.selectSource))
  | .select true => .ok (some (node.head.multiSelectValidator node.selectSource))
  | .radio => .ok (some (node.head.radioValidator node.radioSource))
  | .file => (node.head.fileValidator messages).map some
  | _ => .ok none

/-- The group of a group tag; other tags have none. -/
def group? (node : Node) : Except CompileError (Option Group) :=
  match node.kind with
  | .group (some condition) => .ok (some ⟨node.head.attrD "id" "", condition⟩)
  | .group none => .error (.missingAttribute node.head.ref "cond")
  | _ => .ok none

end Node

namespace Form

def addGroup (form : Form) (group : Group) : Form :=
  { form with groups := form.groups ++ [group] }

def addField (form : Form) (validator : FieldValidator) : Form :=
  { form with
    fields := form.fields ++ [validator.name]
    validators := form.validators ++ [validator] }

/-- Add what a tag in the form contributes. -/
def addNode (messages : Messages) (form : Form) (node : Node) : Except CompileError Form := do
  if let some group ← node.group? then return form.addGroup group
  if let some validator ← node.validator? messages then return form.addField validator
  return form

/-- The form of a form tag, with the fields and groups inside it in document order.
What is in a value tag does not count. -/
def ofNode (messages : Messages) (arena : Arena) (node : Node) : Except CompileError Form :=
  let id := node.head.attrD "id" ""
  let inner := arena.descendants (fun inner => !inner.kind.isValueTag) node
  (inner.filterMap arena.node?).foldlM (addNode messages) {
    typeName := typeNameOf id
    id
    base := node.head.attr? "x:extend"
    fields := []
    groups := []
    validators := [] }

end Form

end Stencil
