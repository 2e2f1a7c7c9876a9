import Stencil.Proofs.Tag.Init
import Stencil.Proofs.Tag.Validation
import Stencil.Template

/-!
# Compiling without an arena

The outline of a compile under way is the list of the open tags, each with the closed
tags in it so far as trees. It is all that the rest of a compile depends on: what was
left out is not in it, and nothing in it refers to nodes by number. Templates are
compiled on outlines just as on arenas.
-/
namespace Stencil

/-- A closed tag and the closed tags in it. -/
inductive Tree where
  | node (head : Head) (kind : TagKind) (body : Fragment) (inner : List Tree)

namespace Tree

mutual
/-- A tag and the tags in it that its form looks at, in document order. -/
def visible : Tree → List Node
  | .node head kind body inner =>
    ⟨head, kind, none, body, [], false⟩ :: if kind.isValueTag then [] else visibleIn inner

def visibleIn : List Tree → List Node
  | [] => []
  | tree :: rest => tree.visible ++ visibleIn rest
end

end Tree

/-- The form of a form tag with these tags in it. -/
def Form.ofTrees (messages : Messages) (head : Head) (inner : List Tree) :
    Except CompileError Form :=
  let id := head.attrD "id" ""
  (Tree.visibleIn inner).foldlM (addNode messages) {
    typeName := typeNameOf id
    id
    base := head.attr? "x:extend"
    fields := []
    groups := []
    validators := [] }

/-- An open tag with the closed tags in it so far. Conditionals that failed are not
among these. -/
structure Frame where
  head : Head
  kind : TagKind
  body : Fragment := []
  inner : List Tree := []
  /-- Whether what is in it is left out. -/
  skipping : Bool := false

namespace Frame

/-- The node of an open tag, apart from any arena. -/
def node (frame : Frame) : Node :=
  ⟨frame.head, frame.kind, none, frame.body, [], frame.skipping⟩

def tree (frame : Frame) : Tree := .node frame.head frame.kind frame.body frame.inner

/-- The form of a form tag; other tags have none. -/
def form? (messages : Messages) (frame : Frame) : Except CompileError (Option Form) :=
  if frame.kind.isForm then (Form.ofTrees messages frame.head frame.inner).map some else .ok none

theorem countP_skipping_cons (frame : Frame) (outer : List Frame) :
    (frame :: outer).countP (·.skipping) = outer.countP (·.skipping) + frame.skipping.toNat := by
  rw [List.countP_cons]
  cases frame.skipping <;> rfl

/-- Give the innermost form another kind. -/
def changeForm (kind : TagKind) : List Frame → List Frame
  | [] => []
  | frame :: outer =>
    if frame.kind.isForm then { frame with kind } :: outer else frame :: changeForm kind outer

end Frame

/-- The open tags of a compile under way. -/
structure Outline where
  /-- The innermost open tag, or what holds the whole template. -/
  top : Frame
  /-- What it is in, from the inside out. -/
  outer : List Frame := []
  /-- How many of them leave out what is in them. -/
  skip : Nat := 0
  pushes : Nat := 0
  pops : Nat := 0
  statics : Statics := .empty
  forms : List Form := []

/-- The attributes of a tag, with their placeholders replaced if it is not left out. -/
def Setting.attributesOf (setting : Setting) (statics : Statics) (active : Bool)
    (tag : Markup.Occurrence) : Except CompileError (Dict String) := do
  let bindings := setting.bindings statics
  let expand (value : String) : Except CompileError String :=
    if active then bindings.expandAttribute (setting.location tag) value else .ok value
  let entries ← (Markup.attributes tag.attributeText).mapM fun (key, value) =>
    (expand value).map fun value => (key, value)
  return .ofList entries

namespace Outline

def start (setting : Setting) : Outline where
  top := { head := setting.root.head, kind := .root }

def frames (outline : Outline) : List Frame := outline.top :: outline.outer

def active (outline : Outline) : Bool := outline.skip == 0

def pushText (outline : Outline) (text : List Char) : Outline :=
  { outline with top := { outline.top with
      body := Fragment.pushText outline.top.body (String.ofList text) } }

/-- The form around the current place. -/
def form? (outline : Outline) : Option Frame := outline.frames.find? (·.kind.isForm)

/-- The form around the current place gets another kind, if one is given. -/
def changeForm (outline : Outline) (change : Option TagKind) : Outline :=
  let frames := match change with
    | some kind => Frame.changeForm kind outline.frames
    | none => outline.frames
  { outline with top := frames.headD outline.top, outer := frames.tail }

/-- A tag that is being opened here. Of what is around it, it is given the form only. -/
def opening (outline : Outline) (head : Head) (kind : TagKind) : Opening where
  head
  kind
  parent := 0
  arena := ⟨(outline.form?.map Frame.node).toArray⟩
  statics := outline.statics

def initOpening (setting : Setting) (outline : Outline) (opening : Opening) :
    Except CompileError Opening :=
  if outline.active then opening.init setting.config else .ok opening

/-- What the opening of a tag has changed. -/
def opened (outline : Outline) (opening : Opening) : Outline :=
  { outline.changeForm ((opening.arena.node? 0).map Node.kind) with statics := opening.statics }

/-- A closed tag leaves its fragment and its tree in the tag around it, and a form its
definition. -/
def draw (setting : Setting) (outline : Outline) (frame : Frame) :
    Except CompileError Outline := do
  let form ← frame.form? setting.config.messages
  return { outline with
    top := { outline.top with
      body := Fragment.append outline.top.body (frame.node.render setting.config.messages)
      inner := outline.top.inner ++ [frame.tree] }
    forms := outline.forms ++ form.toList }

/-- Put a tag inside all others, as left out if it is a conditional that fails. -/
def enter (outline : Outline) (frame : Frame) (passed : Option Bool) : Outline :=
  let skipping := passed == some false
  { outline with
    top := { frame with skipping }
    outer := outline.frames
    skip := outline.skip + skipping.toNat
    pushes := outline.pushes + 1 }

/-- What becomes of a tag that has been opened: it is entered, or closed at once. -/
def settle (setting : Setting) (outline : Outline) (frame : Frame) (selfClosing : Bool)
    (passed : Option Bool) : Except CompileError Outline :=
  if !selfClosing then .ok (outline.enter frame passed)
  else if outline.active && passed != some false then outline.draw setting frame
  else .ok outline

def openTag (setting : Setting) (outline : Outline) (tag : Markup.Occurrence) (kind : TagKind) :
    Except CompileError Outline := do
  let attributes ← setting.attributesOf outline.statics outline.active tag
  let opening ← outline.initOpening setting <|
    outline.opening ⟨tag.namespaceName, tag.name, attributes, setting.location tag⟩ kind
  let passed := (opening.kind.passes? opening.statics).map fun holds => outline.active && holds
  (outline.opened opening).settle setting { head := opening.head, kind := opening.kind }
    tag.selfClosing passed

def closeTag (setting : Setting) (outline : Outline) (tag : Markup.Occurrence) :
    Except CompileError Outline :=
  match outline.outer with
  | [] => .error (.unexpectedClosingTag (setting.ref tag))
  | parent :: outer => do
    let closed := outline.top
    if closed.head.namespaceName ≠ tag.namespaceName ∨ closed.head.name ≠ tag.name then
      throw (.mismatchedClosingTag closed.head.ref (setting.ref tag))
    let outline := { outline with top := parent, outer, pops := outline.pops + 1 }
    if outline.active then outline.draw setting closed
    else return { outline with skip := outline.skip - closed.skipping.toNat }

def visit (setting : Setting) (outline : Outline) (part : Markup.Part) :
    Except CompileError Outline := do
  let tag := part.tag
  if tag.closing && tag.selfClosing then throw (.malformedTag (setting.ref tag))
  match setting.registry.tag? tag.namespaceName tag.name with
  | none => throw (.unknownTag (setting.ref tag))
  | some kind =>
    let outline := outline.pushText part.gap
    if tag.closing then outline.closeTag setting tag else outline.openTag setting tag kind

def finish (setting : Setting) (outline : Outline) (text : String) :
    Except CompileError Compiled := do
  if !outline.outer.isEmpty then throw (.unterminatedTag outline.top.head.ref)
  if outline.skip ≠ 0 then throw (.unbalancedSkip setting.source outline.skip)
  let body ← (setting.bindings outline.statics).expand setting.source text outline.top.body
  return {
    view := ⟨setting.source, body⟩
    forms := outline.forms
    statics := outline.statics
    pushes := outline.pushes
    pops := outline.pops }

/-- Compile a text on its outlines. -/
def compile (setting : Setting) (text : String) : Except CompileError Compiled := do
  let scan := Markup.scan setting.registry.namespaces text.toList
  let outline ← scan.parts.foldlM (visit setting) (start setting)
  (outline.pushText scan.tail).finish setting text

variable {outline : Outline}

theorem settle_inactive (setting : Setting) (inactive : outline.active = false) (frame : Frame)
    (passed : Option Bool) : outline.settle setting frame true passed = .ok outline := by
  rw [settle, inactive]
  rfl

theorem settle_active (setting : Setting) (active : outline.skip = 0) (frame : Frame)
    (passed : Option Bool) :
    outline.settle setting frame true passed
      = if passed == some false then .ok outline else outline.draw setting frame := by
  rw [settle, Outline.active, active]
  cases failed : passed == some false with
  | true => simp [bne, failed]
  | false => simp [bne, failed]

/-- A tag that is visited without an error is a registered one that is opened or closed. -/
theorem visit_eq_ok {setting : Setting} {next : Outline} {part : Markup.Part}
    (done : outline.visit setting part = .ok next) :
    ∃ kind, setting.registry.tag? part.tag.namespaceName part.tag.name = some kind ∧
      ((part.tag.closing = true ∧ part.tag.selfClosing = false ∧
          (outline.pushText part.gap).closeTag setting part.tag = .ok next) ∨
        (part.tag.closing = false ∧
          (outline.pushText part.gap).openTag setting part.tag kind = .ok next)) := by
  simp only [visit] at done
  split at done
  · cases done
  · next wellFormed =>
    split at done
    · cases done
    · next kind known =>
      refine ⟨kind, known, ?_⟩
      split at done
      · next closing => exact .inl ⟨closing, by simpa [closing] using wellFormed, done⟩
      · next opening => exact .inr ⟨by simpa using opening, done⟩

theorem visit_opening {setting : Setting} {part : Markup.Part} {kind : TagKind}
    (known : setting.registry.tag? part.tag.namespaceName part.tag.name = some kind)
    (opens : part.tag.closing = false) :
    outline.visit setting part = (outline.pushText part.gap).openTag setting part.tag kind := by
  simp [visit, known, opens]

theorem visit_closing {setting : Setting} {part : Markup.Part} {kind : TagKind}
    (known : setting.registry.tag? part.tag.namespaceName part.tag.name = some kind)
    (closes : part.tag.closing = true) (plain : part.tag.selfClosing = false) :
    outline.visit setting part = (outline.pushText part.gap).closeTag setting part.tag := by
  simp [visit, known, closes, plain]

/-- What closing the innermost tag does. -/
theorem closeTag_cons (setting : Setting) (tag : Markup.Occurrence) {parent : Frame}
    {outer : List Frame} (around : outline.outer = parent :: outer) :
    outline.closeTag setting tag =
      if outline.top.head.namespaceName ≠ tag.namespaceName ∨ outline.top.head.name ≠ tag.name then
        .error (.mismatchedClosingTag outline.top.head.ref (setting.ref tag))
      else if outline.skip == 0 then
        ({ outline with top := parent, outer, pops := outline.pops + 1 } : Outline).draw setting
          outline.top
      else .ok { outline with
        top := parent
        outer
        pops := outline.pops + 1
        skip := outline.skip - outline.top.skipping.toNat } := by
  unfold Outline.closeTag
  rw [around]
  dsimp only
  split
  · rfl
  · rfl

/-- Tags that are open at the end are an error. -/
theorem finish_cons (setting : Setting) (text : String) {parent : Frame} {outer : List Frame}
    (around : outline.outer = parent :: outer) :
    outline.finish setting text = .error (.unterminatedTag outline.top.head.ref) := by
  unfold finish
  rw [around]
  rfl

theorem finish_nil (setting : Setting) (text : String) (around : outline.outer = []) :
    outline.finish setting text =
      if outline.skip ≠ 0 then .error (.unbalancedSkip setting.source outline.skip)
      else ((setting.bindings outline.statics).expand setting.source text outline.top.body).map
        fun body => ⟨⟨setting.source, body⟩, outline.forms, outline.statics, outline.pushes,
          outline.pops⟩ := by
  simp only [finish, around]
  by_cases unbalanced : outline.skip ≠ 0
  · simp only [List.isEmpty_nil, Bool.not_true, Bool.false_eq_true, if_false, if_pos unbalanced]
    rfl
  · simp only [List.isEmpty_nil, Bool.not_true, Bool.false_eq_true, if_false, if_neg unbalanced]
    cases (setting.bindings outline.statics).expand setting.source text outline.top.body <;> rfl

end Outline

end Stencil
