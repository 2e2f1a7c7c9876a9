import Stencil.Markup.Attributes
import Stencil.Markup.Occurrence
import Stencil.Placeholder
import Stencil.Registry
import Stencil.Tag.Init
import Stencil.Tag.Render
import Stencil.View

/-!
# Compiling templates

A template is compiled in one walk over its tags. Open tags are on a stack. A tag that
is closed is drawn: its fragment goes into the body of the tag around it. Nothing is
drawn, initialized or replaced inside a conditional that does not hold. What the
outermost body has become is the view, after a final pass over its placeholders.
-/
namespace Stencil

/-- What a template is compiled with. -/
structure Setting where
  registry : Registry
  config : Config
  /-- The name of the template. -/
  source : String

/-- A compile under way. -/
structure Session where
  arena : Arena
  /-- The open tags around the current place, innermost first, without the root. -/
  stack : List NodeId := []
  /-- How many of them are conditionals whose subtree is left out. -/
  skip : Nat := 0
  pushes : Nat := 0
  pops : Nat := 0
  statics : Statics := .empty
  /-- The forms drawn so far. -/
  forms : List Form := []

/-- What became of a template. -/
structure Compiled where
  view : View
  /-- In the order the forms were closed. -/
  forms : List Form
  /-- The static attributes at the end of the template. -/
  statics : Statics
  pushes : Nat
  pops : Nat

namespace Setting

/-- The node that holds the whole template. -/
def root (setting : Setting) : Node where
  head := ⟨"", "", .empty, ⟨setting.source, 1, 1⟩⟩
  kind := .root
  parent := none

def location (setting : Setting) (tag : Markup.Occurrence) : Location :=
  ⟨setting.source, tag.start.line, tag.start.column⟩

def ref (setting : Setting) (tag : Markup.Occurrence) : TagRef :=
  ⟨tag.namespaceName, tag.name, setting.location tag⟩

def bindings (setting : Setting) (statics : Statics) : Bindings :=
  ⟨statics, setting.config.constants, setting.config.variableValues⟩

end Setting

namespace Session

def rootId : NodeId := 0

def start (setting : Setting) : Session where
  arena := Arena.empty.push setting.root

/-- The innermost open tag, or the root. -/
def top (session : Session) : NodeId := session.stack.headD rootId

def active (session : Session) : Bool := session.skip == 0

def node (setting : Setting) (session : Session) (id : NodeId) : Node :=
  (session.arena.node? id).getD setting.root

/-- Text goes into the body of the innermost open tag. -/
def pushText (session : Session) (text : List Char) : Session :=
  { session with
    arena := session.arena.update session.top fun node =>
      { node with body := Fragment.pushText node.body (String.ofList text) } }

/-- The attributes of a tag; of several with one key the last one counts. Their
placeholders are only replaced outside of what is left out. -/
def attributes (setting : Setting) (session : Session) (tag : Markup.Occurrence) :
    Except CompileError (Dict String) := do
  let bindings := setting.bindings session.statics
  let expand (value : String) : Except CompileError String :=
    if session.active then bindings.expandAttribute (setting.location tag) value else .ok value
  let entries ← (Markup.attributes tag.attributeText).mapM fun (key, value) =>
    (expand value).map fun value => (key, value)
  return .ofList entries

/-- A closed tag leaves its fragment in the tag around it, and a form its
definition. -/
def draw (setting : Setting) (session : Session) (id : NodeId) : Except CompileError Session := do
  let node := session.node setting id
  let messages := setting.config.messages
  let form ← node.form? messages session.arena
  let arena := match node.parent with
    | some parent => session.arena.update parent fun outer =>
      { outer with body := Fragment.append outer.body (node.render messages) }
    | none => session.arena
  return { session with arena, forms := session.forms ++ form.toList }

/-- Put a tag on the stack, as left out if it is a conditional that fails. -/
def enter (session : Session) (id : NodeId) (passed : Option Bool) : Session :=
  let session := { session with stack := id :: session.stack, pushes := session.pushes + 1 }
  if passed = some false then
    { session with
      skip := session.skip + 1
      arena := session.arena.update id fun node => { node with skipping := true } }
  else session

/-- Initialize a tag, unless it is left out. -/
def initOpening (setting : Setting) (session : Session) (opening : Opening) :
    Except CompileError Opening :=
  if session.active then opening.init setting.config else .ok opening

def openTag (setting : Setting) (session : Session) (tag : Markup.Occurrence) (kind : TagKind) :
    Except CompileError Session := do
  let attributes ← session.attributes setting tag
  let opening ← session.initOpening setting {
    head := ⟨tag.namespaceName, tag.name, attributes, setting.location tag⟩
    kind
    parent := session.top
    arena := session.arena
    statics := session.statics }
  let passed := (opening.kind.passes? opening.statics).map fun holds => session.active && holds
  let id := opening.arena.size
  let arena := opening.arena.push ⟨opening.head, opening.kind, some session.top, [], [], false⟩
  let arena := if session.active then arena.adopt session.top id else arena
  let session := { session with arena, statics := opening.statics }
  if !tag.selfClosing then return session.enter id passed
  else if session.active && passed != some false then session.draw setting id
  else return session

def closeTag (setting : Setting) (session : Session) (tag : Markup.Occurrence) :
    Except CompileError Session :=
  match session.stack with
  | [] => .error (.unexpectedClosingTag (setting.ref tag))
  | id :: stack => do
    let node := session.node setting id
    if node.head.namespaceName ≠ tag.namespaceName ∨ node.head.name ≠ tag.name then
      throw (.mismatchedClosingTag node.head.ref (setting.ref tag))
    let session := { session with stack, pops := session.pops + 1 }
    if session.active then session.draw setting id
    else if node.skipping then return { session with skip := session.skip - 1 }
    else return session

/-- The text up to a tag, and the tag. -/
def visit (setting : Setting) (session : Session) (part : Markup.Part) :
    Except CompileError Session := do
  let tag := part.tag
  if tag.closing && tag.selfClosing then throw (.malformedTag (setting.ref tag))
  match setting.registry.tag? tag.namespaceName tag.name with
  | none => throw (.unknownTag (setting.ref tag))
  | some kind =>
    let session := session.pushText part.gap
    if tag.closing then session.closeTag setting tag else session.openTag setting tag kind

/-- The end of a template, where all tags have to be closed. -/
def finish (setting : Setting) (session : Session) (text : String) :
    Except CompileError Compiled := do
  match session.stack with
  | id :: _ => throw (.unterminatedTag (session.node setting id).head.ref)
  | [] => pure ()
  if session.skip ≠ 0 then throw (.unbalancedSkip setting.source session.skip)
  let body ← (setting.bindings session.statics).expand setting.source text
    (session.node setting rootId).body
  return {
    view := ⟨setting.source, body⟩
    forms := session.forms
    statics := session.statics
    pushes := session.pushes
    pops := session.pops }

end Session

/-- Compile a text as the template of this name. -/
def compileTemplate (setting : Setting) (text : String) : Except CompileError Compiled := do
  let scan := Markup.scan setting.registry.namespaces text.toList
  let session ← scan.parts.foldlM (Session.visit setting) (Session.start setting)
  (session.pushText scan.tail).finish setting text

end Stencil
