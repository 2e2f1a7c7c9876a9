import Stencil.Proofs.Forest
import Stencil.Proofs.Outline.Skipping

/-!
# Reading templates without forms

A template with no other tags than conditionals and tags that set static attributes is
read from the outside in: text stands for itself, a tag that sets a static attribute for
what is in it, and a conditional for what is in it or for nothing. Compiling gives what
such a reading gives.
-/
namespace Stencil

open Markup (Occurrence Part)

/-- What a tag does where it is read: it gives the static attributes for what is in it,
or none if that is left out. -/
def Setting.readTag (setting : Setting) (statics : Statics) (tag : Occurrence) :
    Except CompileError (Option Statics) := do
  let attributes ← setting.attributesOf statics true tag
  let head : Head := ⟨tag.namespaceName, tag.name, attributes, setting.location tag⟩
  if tag.name = "set" then
    let name ← head.required "name"
    return some (statics.insert name (head.attrD "value" ""))
  else
    let condition ← Comparison.ofHead head
    return if condition.holds statics then some statics else none

/-- The text a forest stands for, and the static attributes behind it. -/
def Forest.read (setting : Setting) : Forest → Statics → Except CompileError (String × Statics)
  | .text behind, statics => .ok (String.ofList behind, statics)
  | .single gap tag rest, statics => do
    let entered ← setting.readTag statics tag
    let (behind, last) ← rest.read setting (entered.getD statics)
    return (String.ofList gap ++ behind, last)
  | .element gap opening inner _ rest, statics => do
    let entered ← setting.readTag statics opening
    let (within, after) ← entered.elim (.ok ("", statics)) (inner.read setting)
    let (behind, last) ← rest.read setting after
    return (String.ofList gap ++ within ++ behind, last)

/-- Conditionals and tags that set a static attribute. -/
def Markup.Occurrence.IsStatic (tag : Occurrence) : Prop :=
  tag.namespaceName = "static" ∧ (tag.name = "if" ∨ tag.name = "set")

theorem Markup.Occurrence.IsStatic.known {tag : Occurrence} (static : tag.IsStatic) :
    ∃ kind, Registry.builtin.tag? tag.namespaceName tag.name = some kind := by
  obtain ⟨namespaceName, name | name⟩ := static
  · exact ⟨.staticIf none, by rw [namespaceName, name]; rfl⟩
  · exact ⟨.staticSet, by rw [namespaceName, name]; rfl⟩

/-- The kinds of these tags. -/
def TagKind.isStatic : TagKind → Bool
  | .staticIf _ | .staticSet => true
  | _ => false

/-! ### One tag -/

private theorem TagKind.isForm_of_isStatic {kind : TagKind} (static : kind.isStatic) :
    kind.isForm = false := by
  cases kind <;> first | rfl | cases static

/-- These tags stand for what is in them. -/
theorem Node.render_of_isStatic {messages : Messages} {node : Node} (static : node.kind.isStatic) :
    node.render messages = node.body := by
  unfold render
  cases kind : node.kind with
  | root => rfl
  | staticIf comparison => rfl
  | staticSet => rfl
  | _ =>
    rw [kind] at static
    cases static

namespace Outline

variable {setting : Setting} {outline next last : Outline} {tag : Occurrence}

/-- An outline after some text and a change of static attributes. The trees in it and the
counts are not compared. -/
def Advanced (outline next : Outline) (text : String) (statics : Statics) : Prop :=
  ∃ inner pushes pops, next = { outline with
    top := { outline.top with body := Fragment.pushText outline.top.body text, inner }
    statics
    pushes
    pops }

theorem Advanced.trans {s t : String} {statics statics' : Statics}
    (first : outline.Advanced next s statics) (second : next.Advanced last t statics') :
    outline.Advanced last (s ++ t) statics' := by
  obtain ⟨_, _, _, rfl⟩ := first
  obtain ⟨inner, pushes, pops, rfl⟩ := second
  exact ⟨inner, pushes, pops, by simp only [Fragment.pushText_pushText]⟩

theorem Advanced.skip_eq {s : String} {statics : Statics}
    (advanced : outline.Advanced next s statics) : next.skip = outline.skip := by
  obtain ⟨_, _, _, rfl⟩ := advanced
  rfl

private theorem Advanced.statics_eq {s : String} {statics : Statics}
    (advanced : outline.Advanced next s statics) : next.statics = statics := by
  obtain ⟨_, _, _, rfl⟩ := advanced
  rfl

private theorem advanced_pushText (outline : Outline) (text : List Char) :
    outline.Advanced (outline.pushText text) (String.ofList text) outline.statics :=
  ⟨outline.top.inner, outline.pushes, outline.pops, rfl⟩

/-- A drawn tag of these leaves what is in it. -/
private theorem draw_static (setting : Setting) (outline : Outline) {frame : Frame}
    (static : frame.kind.isStatic) {s : String} (body : frame.body = .ofText s) :
    ∃ next, outline.draw setting frame = .ok next ∧ outline.Advanced next s outline.statics := by
  have form : frame.form? setting.config.messages = .ok none := by
    unfold Frame.form?
    rw [if_neg (by simp [TagKind.isForm_of_isStatic static])]
  have rendered : frame.node.render setting.config.messages = .ofText s := by
    rw [← body]
    exact Node.render_of_isStatic static
  refine ⟨{ outline with top := { outline.top with
    body := Fragment.pushText outline.top.body s
    inner := outline.top.inner ++ [frame.tree] } }, ?_, _, _, _, rfl⟩
  simp only [draw, form, rendered, Fragment.append_ofText, bind, Except.bind, Option.toList_none,
    List.append_nil]
  rfl

/-- What the opening of a tag gives: an open tag with nothing in it, the static
attributes for what is in it, and whether it lets that be compiled. -/
structure Entering (before : Statics) (tag : Occurrence) (entered : Option Statics)
    (frame : Frame) (statics : Statics) (passed : Option Bool) : Prop where
  namespaceName : frame.head.namespaceName = tag.namespaceName
  name : frame.head.name = tag.name
  static : frame.kind.isStatic
  empty : frame.body = .ofText ""
  statics : statics = entered.getD before
  passed : (passed == some false) = entered.isNone

/-- A tag does where it is opened what it does where it is read. -/
def OpensAsRead (setting : Setting) (outline : Outline) (tag : Occurrence) (kind : TagKind) :
    Prop :=
  ∃ opening : Except CompileError (Frame × Statics × Option Bool),
    outline.openTag setting tag kind = (opening >>= fun (frame, statics, passed) =>
      ({ outline with statics } : Outline).settle setting frame tag.selfClosing passed) ∧
    Related (· = ·)
      (fun (frame, statics, passed) entered =>
        Entering outline.statics tag entered frame statics passed)
      opening (setting.readTag outline.statics tag)

private theorem opensAsRead_staticIf (setting : Setting) (active : outline.active = true)
    (name : tag.name = "if") : OpensAsRead setting outline tag (.staticIf none) := by
  refine ⟨do
    let attributes ← setting.attributesOf outline.statics true tag
    let head := ⟨tag.namespaceName, tag.name, attributes, setting.location tag⟩
    let condition ← Comparison.ofHead head
    return ({ head, kind := .staticIf (some condition) }, outline.statics,
      some (condition.holds outline.statics)), ?_, ?_⟩
  · rw [openTag_staticIf active]
    simp only [bind_assoc, pure_bind]
  · unfold Setting.readTag
    refine Related.bind_same (fun _ => rfl) fun attributes _ => ?_
    simp only [name, String.reduceEq, if_false]
    refine Related.bind_same (fun _ => rfl) fun condition _ => .ok ?_
    cases holds : condition.holds outline.statics with
    | true => exact ⟨rfl, name.symm, rfl, rfl, rfl, rfl⟩
    | false => exact ⟨rfl, name.symm, rfl, rfl, rfl, rfl⟩

private theorem opensAsRead_staticSet (setting : Setting) (active : outline.active = true)
    (name : tag.name = "set") : OpensAsRead setting outline tag .staticSet := by
  refine ⟨do
    let attributes ← setting.attributesOf outline.statics true tag
    let head := ⟨tag.namespaceName, tag.name, attributes, setting.location tag⟩
    let statics ← outline.statics.set head
    return ({ head, kind := .staticSet }, statics, none), ?_, ?_⟩
  · rw [openTag_staticSet active]
    simp only [bind_assoc, pure_bind]
  · unfold Setting.readTag Statics.set
    refine Related.bind_same (fun _ => rfl) fun attributes _ => ?_
    simp only [name, if_true]
    cases Head.required _ "name" with
    | error error => exact .error rfl
    | ok key => exact .ok ⟨rfl, name.symm, rfl, rfl, rfl, rfl⟩

private theorem opensAsRead (setting : Setting) (active : outline.active = true)
    (static : tag.IsStatic)
    {kind : TagKind} (known : Registry.builtin.tag? tag.namespaceName tag.name = some kind) :
    OpensAsRead setting outline tag kind := by
  obtain ⟨namespaceName, name | name⟩ := static
  · have conditional : kind = .staticIf none := by
      rw [namespaceName, name] at known
      exact (Option.some.inj known).symm
    subst conditional
    exact opensAsRead_staticIf setting active name
  · have setter : kind = .staticSet := by
      rw [namespaceName, name] at known
      exact (Option.some.inj known).symm
    subst setter
    exact opensAsRead_staticSet setting active name

/-- A text and a tag that closes itself. -/
private theorem visit_single (builtin : setting.registry = .builtin) (active : outline.skip = 0)
    (static : tag.IsStatic) (opens : tag.closing = false) (self : tag.selfClosing = true)
    (gap : List Char) :
    Related (· = ·)
      (fun next entered =>
        outline.Advanced next (String.ofList gap) (entered.getD outline.statics))
      (outline.visit setting ⟨gap, tag⟩) (setting.readTag outline.statics tag) := by
  obtain ⟨kind, known⟩ := static.known
  have here : setting.registry.tag? tag.namespaceName tag.name = some kind := builtin ▸ known
  rw [visit_opening here opens]
  have active' : (outline.pushText gap).active = true := by simp [Outline.active, pushText, active]
  obtain ⟨opening, opened, read⟩ := opensAsRead setting active' static known
  rw [opened, self, ← bind_pure (setting.readTag outline.statics tag)]
  refine read.bind fun start entered entering => ?_
  obtain ⟨frame, statics, passed⟩ := start
  dsimp only at entering ⊢
  obtain ⟨-, -, plain, empty, rfl, passed⟩ := entering
  let inside : Outline := { outline.pushText gap with statics := entered.getD outline.statics }
  -- The text before the tag is drawn before the tag is.
  have text : outline.Advanced inside (String.ofList gap) (entered.getD outline.statics) :=
    ⟨_, _, _, rfl⟩
  have unskipped : inside.skip = 0 := active
  change Related _ _ (inside.settle setting frame true _) _
  rw [settle_active setting unskipped, passed]
  -- A condition that fails leaves out the tag, and anything else draws nothing.
  cases entered with
  | none => exact .ok text
  | some statics =>
    obtain ⟨next, drawn, advanced⟩ := draw_static setting inside plain empty
    have whole := text.trans advanced
    rw [String.append_empty] at whole
    rw [Option.isNone_some, if_neg Bool.false_ne_true, drawn]
    exact .ok whole

/-- A text and a tag that has something in it. -/
private theorem visit_element (builtin : setting.registry = .builtin) (active : outline.skip = 0)
    (static : tag.IsStatic) (opens : tag.closing = false) (plain : tag.selfClosing = false)
    (gap : List Char) :
    Related (· = ·)
      (fun base entered => ∃ frame statics passed,
        Entering outline.statics tag entered frame statics passed ∧
          base = ({ outline.pushText gap with statics } : Outline).enter frame passed)
      (outline.visit setting ⟨gap, tag⟩) (setting.readTag outline.statics tag) := by
  obtain ⟨kind, known⟩ := static.known
  have here : setting.registry.tag? tag.namespaceName tag.name = some kind := builtin ▸ known
  rw [visit_opening here opens]
  have active' : (outline.pushText gap).active = true := by simp [Outline.active, pushText, active]
  obtain ⟨opening, opened, read⟩ := opensAsRead setting active' static known
  rw [opened, plain, ← bind_pure (setting.readTag outline.statics tag)]
  refine read.bind fun start entered entering => .ok ?_
  obtain ⟨frame, statics, passed⟩ := start
  exact ⟨frame, statics, passed, entering, rfl⟩

/-- The closing tag of a tag whose contents have been compiled. -/
private theorem visit_closing_static {base : Outline} {frame : Frame} {passed : Option Bool}
    {closing : Part} {s : String} {statics : Statics} (builtin : setting.registry = .builtin)
    (active : outline.skip = 0) (entered : base = outline.enter frame passed)
    (goesOn : (passed == some false) = false) (plain : frame.kind.isStatic)
    (empty : frame.body = .ofText "") (static : closing.tag.IsStatic)
    (closes : closing.tag.closing = true) (open_end : closing.tag.selfClosing = false)
    (names : frame.head.namespaceName = closing.tag.namespaceName ∧
      frame.head.name = closing.tag.name)
    (inside : base.Advanced (last.pushText closing.gap) s statics) :
    ∃ next, last.visit setting closing = .ok next ∧ outline.Advanced next s statics := by
  obtain ⟨kind, known⟩ := static.known
  have here : setting.registry.tag? closing.tag.namespaceName closing.tag.name = some kind :=
    builtin ▸ known
  rw [visit_closing here closes open_end]
  obtain ⟨inner, pushes, pops, advanced⟩ := inside
  subst entered
  have body : Fragment.pushText frame.body s = .ofText s := by
    rw [empty]
    rfl
  -- The tag as it is closed, and the outline around it.
  let closed : Frame :=
    { frame with body := Fragment.pushText frame.body s, inner, skipping := false }
  let around : Outline := { outline with pushes, pops := pops + 1, statics }
  have left : last.pushText closing.gap
      = { around with top := closed, outer := outline.frames, pops } := by
    rw [advanced]
    simp only [enter, goesOn, Bool.toNat_false, Nat.add_zero]
    rfl
  obtain ⟨next, drawn, trees, pushes', pops', rfl⟩ := draw_static setting around
    (show closed.kind.isStatic from plain) (show closed.body = _ from body)
  refine ⟨_, ?_, trees, pushes', pops', rfl⟩
  have outside : (last.pushText closing.gap).outer = outline.top :: outline.outer := by
    rw [left]
    rfl
  rw [closeTag_cons setting closing.tag outside, left, if_neg (by simp [closed, names]),
    if_pos (by simpa [around] using active)]
  exact drawn

end Outline

/-! ### Forests -/

/-- That compiling a forest gives what reading it gives, wherever it stands. -/
def Forest.Runs (setting : Setting) (forest : Forest) : Prop :=
  ∀ outline : Outline, outline.skip = 0 →
    Related (· = ·)
      (fun last (s, statics) => outline.Advanced (last.pushText forest.tail) s statics)
      (forest.parts.foldlM (Outline.visit setting) outline)
      (forest.read setting outline.statics)

/-- What follows goes on where the outline has advanced to. -/
theorem Forest.Runs.behind {setting : Setting} {rest : Forest} (runs : rest.Runs setting)
    {outline next : Outline} {s : String} {statics : Statics}
    (advanced : outline.Advanced next s statics) (active : outline.skip = 0) :
    Related (· = ·)
      (fun last (emitted, after) => outline.Advanced (last.pushText rest.tail) emitted after)
      (rest.parts.foldlM (Outline.visit setting) next)
      (rest.read setting statics >>= fun (behind, last) => .ok (s ++ behind, last)) := by
  have later := runs next (advanced.skip_eq.trans active)
  rw [advanced.statics_eq] at later
  rw [← bind_pure (rest.parts.foldlM _ _)]
  exact later.bind fun last result more => .ok (advanced.trans more)

/-- A tag with a proper forest in it, and its closing tag with the text before that. -/
structure StaticElement (opening : Occurrence) (inner : Forest) (closing : Part) : Prop where
  proper : inner.Proper
  static : ∀ part ∈ inner.parts, part.tag.IsStatic
  gap : closing.gap = inner.tail
  closes : closing.tag.closing = true
  plain : closing.tag.selfClosing = false
  staticClosing : closing.tag.IsStatic
  names : opening.namespaceName = closing.tag.namespaceName ∧ opening.name = closing.tag.name

namespace StaticElement

variable {setting : Setting} {outline : Outline} {opening : Occurrence} {inner : Forest}
  {closing : Part} {frame : Frame} {statics : Statics} {passed : Option Bool}

private theorem frame_names {entered : Option Statics}
    (element : StaticElement opening inner closing)
    (entering : Outline.Entering outline.statics opening entered frame statics passed) :
    frame.head.namespaceName = closing.tag.namespaceName ∧ frame.head.name = closing.tag.name :=
  ⟨entering.namespaceName.trans element.names.1, entering.name.trans element.names.2⟩

/-- Where a conditional does not hold, nothing in it is looked at. -/
theorem run_left_out (builtin : setting.registry = .builtin)
    (element : StaticElement opening inner closing)
    (entering : Outline.Entering outline.statics opening none frame statics passed) :
    ∃ next, (inner.parts ++ [closing]).foldlM (Outline.visit setting)
        (({ outline with statics } : Outline).enter frame passed) = .ok next ∧
      outline.Advanced next "" outline.statics := by
  have store : statics = outline.statics := entering.statics
  have fails : passed = some false := by simpa using entering.passed
  -- The tags of the body are known, so leaving it out finds their ends.
  have known (part : Part) (member : part ∈ inner.parts) :
      setting.registry.containsTag part.tag.namespaceName part.tag.name := by
    obtain ⟨kind, here⟩ := (element.static part member).known
    rw [builtin, Registry.containsTag, here]
    rfl
  have fits := inner.matched element.proper known []
  obtain ⟨kind, here⟩ := element.staticClosing.known
  have left : ∃ pushes pops,
      (inner.parts ++ [closing]).foldlM (Outline.visit setting)
        (({ outline with statics } : Outline).enter frame (some false))
        = .ok { outline with statics, pushes, pops } :=
    Outline.run_left_out fits (builtin ▸ here) element.closes element.plain
      (element.frame_names entering)
  obtain ⟨pushes, pops, left⟩ := left
  rw [fails, left, store]
  exact ⟨_, rfl, outline.top.inner, pushes, pops, rfl⟩

/-- Otherwise what is in the tag is compiled inside of it, and drawn when it is closed. -/
theorem run_read (builtin : setting.registry = .builtin) (active : outline.skip = 0)
    (element : StaticElement opening inner closing) (runs : inner.Runs setting)
    {inside : Statics}
    (entering : Outline.Entering outline.statics opening (some inside) frame statics passed) :
    Related (· = ·) (fun next (s, after) => outline.Advanced next s after)
      ((inner.parts ++ [closing]).foldlM (Outline.visit setting)
        (({ outline with statics } : Outline).enter frame passed))
      (inner.read setting inside) := by
  have store : statics = inside := entering.statics
  have goesOn : (passed == some false) = false := entering.passed
  let base := ({ outline with statics } : Outline).enter frame passed
  have unskipped : base.skip = 0 := by
    simp only [base, Outline.enter, goesOn, Bool.toNat_false, Nat.add_zero]
    exact active
  -- The body runs below the tag, and closing the tag only moves up what it drew.
  have within := runs base unskipped
  rw [show base.statics = inside from store] at within
  rw [List.foldlM_append, ← bind_pure (inner.read setting inside)]
  refine within.bind fun last result advanced => ?_
  obtain ⟨s, after⟩ := result
  rw [← element.gap] at advanced
  obtain ⟨next, visited, trees, pushes, pops, rfl⟩ := Outline.visit_closing_static builtin
    (show ({ outline with statics } : Outline).skip = 0 from active) rfl goesOn entering.static
    entering.empty element.staticClosing element.closes element.plain
    (element.frame_names entering) advanced
  rw [List.foldlM_cons, visited]
  exact .ok ⟨trees, pushes, pops, rfl⟩

/-- What is in a tag that has been opened, and its closing tag. -/
theorem run (builtin : setting.registry = .builtin) (active : outline.skip = 0)
    (element : StaticElement opening inner closing) (runs : inner.Runs setting)
    {entered : Option Statics}
    (entering : Outline.Entering outline.statics opening entered frame statics passed) :
    Related (· = ·) (fun next (s, after) => outline.Advanced next s after)
      ((inner.parts ++ [closing]).foldlM (Outline.visit setting)
        (({ outline with statics } : Outline).enter frame passed))
      (entered.elim (.ok ("", outline.statics)) (inner.read setting)) := by
  cases entered with
  | none =>
    obtain ⟨next, left, advanced⟩ := element.run_left_out builtin entering
    rw [left]
    exact .ok advanced
  | some inside => exact element.run_read builtin active runs entering

end StaticElement

/-- Compiling a forest gives what reading it gives. -/
theorem Forest.run {setting : Setting} (builtin : setting.registry = .builtin) (forest : Forest)
    (proper : forest.Proper) (static : ∀ part ∈ forest.parts, part.tag.IsStatic) :
    forest.Runs setting := by
  induction forest with
  | text behind =>
    intro outline active
    exact .ok (outline.advanced_pushText behind)
  | single gap tag rest ih =>
    intro outline active
    obtain ⟨opens, self, properRest⟩ := proper
    have here := static ⟨gap, tag⟩ List.mem_cons_self
    rw [parts, List.foldlM_cons, read]
    -- What follows is read with the static attributes the tag leaves.
    refine (Outline.visit_single builtin active here opens self gap).bind
      fun next entered advanced => ?_
    have later := ih properRest fun part member => static part (List.mem_cons_of_mem _ member)
    exact later.behind advanced active
  | element gap opening inner closing rest ihInner ihRest =>
    intro outline active
    obtain ⟨⟨opens, plain⟩, closes, names, properInner, properRest⟩ := proper
    simp only [parts, List.cons_append, List.mem_cons, List.mem_append, forall_eq_or_imp] at static
    obtain ⟨staticOpening, static⟩ := static
    have enclosed : StaticElement opening inner ⟨inner.tail, closing⟩ :=
      ⟨properInner, fun part member => static part (.inl member), rfl, closes.1, closes.2,
        static ⟨inner.tail, closing⟩ (.inr (.inl rfl)), names⟩
    have around := foldlM_around (Outline.visit setting) [] inner.parts rest.parts
      ⟨gap, opening⟩ ⟨inner.tail, closing⟩ outline
    change (element gap opening inner closing rest).parts.foldlM _ outline = _ at around
    rw [around, read]
    refine (Outline.visit_element builtin active staticOpening opens plain gap).bind
      fun base entered opened => ?_
    obtain ⟨frame, statics, passed, entering, rfl⟩ := opened
    -- The text before the tag is in the outline already when the tag is opened.
    have inside := enclosed.run builtin (show (outline.pushText gap).skip = 0 from active)
      (ihInner properInner enclosed.static) entering
    refine inside.bind fun next result advanced => ?_
    have whole := (outline.advanced_pushText gap).trans advanced
    have later := ihRest properRest fun part member => static part (.inr (.inr member))
    exact later.behind whole active

/-- What is read of a forest is made of the texts in it. -/
theorem Forest.not_mem_read {setting : Setting} {c : Char} {forest : Forest}
    {statics after : Statics} {s : String} (gaps : ∀ part ∈ forest.parts, c ∉ part.gap)
    (tail : c ∉ forest.tail) (done : forest.read setting statics = .ok (s, after)) :
    c ∉ s.toList := by
  induction forest generalizing statics after s with
  | text behind =>
    cases done
    rwa [String.toList_ofList]
  | single gap tag rest ih =>
    obtain ⟨entered, -, done⟩ := bind_eq_ok.mp done
    obtain ⟨⟨behind, last⟩, later, same⟩ := bind_eq_ok.mp done
    cases same
    have before := gaps ⟨gap, tag⟩ List.mem_cons_self
    have after := ih (fun part member => gaps part (List.mem_cons_of_mem _ member)) tail later
    simpa using ⟨before, after⟩
  | element gap opening inner closing rest ihInner ihRest =>
    simp only [parts, List.cons_append, List.mem_cons, List.mem_append, forall_eq_or_imp] at gaps
    obtain ⟨before, gaps⟩ := gaps
    obtain ⟨entered, -, done⟩ := bind_eq_ok.mp done
    obtain ⟨⟨within, middle⟩, inside, done⟩ := bind_eq_ok.mp done
    obtain ⟨⟨behind, last⟩, later, same⟩ := bind_eq_ok.mp done
    cases same
    -- A condition that fails leaves out its body, and with it all that it reads.
    have during : c ∉ within.toList := by
      cases entered with
      | none =>
        cases inside
        exact List.not_mem_nil
      | some statics =>
        exact ihInner (fun part member => gaps part (.inl member))
          (gaps ⟨inner.tail, closing⟩ (.inr (.inl rfl))) inside
    have after := ihRest (fun part member => gaps part (.inr (.inr member))) tail later
    simpa using ⟨before, during, after⟩

/-! ### Templates -/

/-- The scan of a template with conditionals and tags that set a static attribute only,
and with no placeholders in its texts. -/
structure Markup.Scan.IsStatic (scan : Markup.Scan) : Prop where
  tags : ∀ part ∈ scan.parts, part.tag.IsStatic
  gaps : ∀ part ∈ scan.parts, '{' ∉ part.gap
  tail : '{' ∉ scan.tail

/-- Compiling a text whose tags are those of a proper forest gives what reading it
gives. -/
theorem compileTemplate_read {setting : Setting} {text : String}
    (builtin : setting.registry = .builtin) {forest : Forest} (proper : forest.Proper)
    (scanned : forest.scan = Markup.scan setting.registry.namespaces text.toList)
    (static : forest.scan.IsStatic) :
    Related (· = ·)
      (fun compiled (s, statics) => compiled.statics = statics ∧
        ∀ request errors, compiled.view.render request errors = s)
      (compileTemplate setting text) (forest.read setting .empty) := by
  obtain ⟨tags, gaps, tail⟩ := static
  have run := forest.run builtin proper tags (Outline.start setting) rfl
  rw [compileTemplate_eq_outline, Outline.compile, ← scanned,
    ← bind_pure (forest.read setting .empty)]
  -- The final pass finds no placeholder in what has been read.
  refine run.retrace.bind fun last result advanced => ?_
  obtain ⟨s, statics⟩ := result
  obtain ⟨⟨inner, pushes, pops, advanced⟩, -, read⟩ := advanced
  have plain : '{' ∉ s.toList := forest.not_mem_read gaps tail read
  change Related _ _ ((last.pushText forest.tail).finish setting text) _
  have body : Fragment.pushText (Outline.start setting).top.body s = .ofText s := rfl
  rw [advanced, Outline.finish_nil setting text rfl, if_neg (by simp [Outline.start])]
  dsimp only
  rw [body, Bindings.expand_plain _ _ _ plain]
  exact .ok ⟨rfl, fun request errors => Fragment.render_ofText _ s request errors⟩

/-- A template of static tags with no placeholders in its texts compiles as it reads: it
compiles if its tags are those of a proper forest that can be read, and then it renders to
the text read, with the static attributes read. -/
theorem compileTemplate_reads (setting : Setting) (text : String)
    (builtin : setting.registry = .builtin)
    (static : (Markup.scan setting.registry.namespaces text.toList).IsStatic) :
    ((∃ compiled, compileTemplate setting text = .ok compiled) ↔
      ∃ forest : Forest, forest.Proper ∧
        forest.scan = Markup.scan setting.registry.namespaces text.toList ∧
        ∃ result, forest.read setting .empty = .ok result) ∧
    ∀ forest : Forest, forest.Proper →
      forest.scan = Markup.scan setting.registry.namespaces text.toList →
      (∀ error, compileTemplate setting text = .error error ↔
        forest.read setting .empty = .error error) ∧
      ∀ compiled, compileTemplate setting text = .ok compiled →
        ∃ emitted, forest.read setting .empty = .ok (emitted, compiled.statics) ∧
          ∀ request errors, compiled.view.render request errors = emitted := by
  have reads (forest : Forest) (proper : forest.Proper)
      (scanned : forest.scan = Markup.scan setting.registry.namespaces text.toList) :=
    compileTemplate_read builtin proper scanned (scanned ▸ static)
  refine ⟨⟨?_, ?_⟩, ?_⟩
  · -- What compiles has matched tags, and these are those of a forest.
    rintro ⟨compiled, compiles⟩
    obtain ⟨⟨⟩, matched, -⟩ := (compile_agreeing setting text).of_ok compiles
    obtain ⟨forest, proper, scanned⟩ := Forest.exists_of_matched matched
    obtain ⟨result, read, -⟩ := (reads forest proper scanned).exists_of_ok compiles
    exact ⟨forest, proper, scanned, result, read⟩
  · rintro ⟨forest, proper, scanned, result, read⟩
    obtain ⟨compiled, compiles, -⟩ := (reads forest proper scanned).exists_of_ok_right read
    exact ⟨compiled, compiles⟩
  · intro forest proper scanned
    have related := reads forest proper scanned
    refine ⟨related.eq_error_iff, fun compiled compiles => ?_⟩
    obtain ⟨⟨emitted, statics⟩, read, rfl, rendered⟩ := related.exists_of_ok compiles
    exact ⟨emitted, read, rendered⟩

/-- What is in a conditional is there if a tag before it has set what it asks for, and a tag in
one that fails sets nothing. The value of another static attribute is put together from one. -/
theorem compileTemplate_reads_isset :
    let setting : Setting := ⟨.builtin, {}, "page"⟩
    let text := "<static:set name=\"a\" value=\"1\"/>x<static:if isset=\"a\">y</static:if>" ++
      "<static:if isset=\"b\"><static:set name=\"c\"/></static:if>" ++
      "<static:set name=\"d\" value=\"\x7b#a\x7d2\"/><static:if attr=\"d\" equal=\"12\">z</static:if>"
    ∃ compiled, compileTemplate setting text = .ok compiled ∧
      compiled.statics.entries = [("a", "1"), ("d", "12")] ∧
      ∀ request errors, compiled.view.render request errors = "xyz" := by
  intro setting text
  let setA : Occurrence :=
    ⟨false, true, "static", "set", "name=\"a\" value=\"1\"".toList, ⟨0, 1, 1⟩, ⟨32, 1, 33⟩⟩
  let ifA : Occurrence :=
    ⟨false, false, "static", "if", "isset=\"a\"".toList, ⟨33, 1, 34⟩, ⟨54, 1, 55⟩⟩
  let endA : Occurrence := ⟨true, false, "static", "if", [], ⟨55, 1, 56⟩, ⟨67, 1, 68⟩⟩
  let ifB : Occurrence :=
    ⟨false, false, "static", "if", "isset=\"b\"".toList, ⟨67, 1, 68⟩, ⟨88, 1, 89⟩⟩
  let setC : Occurrence :=
    ⟨false, true, "static", "set", "name=\"c\"".toList, ⟨88, 1, 89⟩, ⟨110, 1, 111⟩⟩
  let endB : Occurrence := ⟨true, false, "static", "if", [], ⟨110, 1, 111⟩, ⟨122, 1, 123⟩⟩
  let setD : Occurrence := ⟨false, true, "static", "set",
    "name=\"d\" value=\"\x7b#a\x7d2\"".toList, ⟨122, 1, 123⟩, ⟨158, 1, 159⟩⟩
  let ifD : Occurrence := ⟨false, false, "static", "if",
    "attr=\"d\" equal=\"12\"".toList, ⟨158, 1, 159⟩, ⟨189, 1, 190⟩⟩
  let endD : Occurrence := ⟨true, false, "static", "if", [], ⟨190, 1, 191⟩, ⟨202, 1, 203⟩⟩
  let forest : Forest :=
    .single [] setA <| .element ['x'] ifA (.text ['y']) endA <|
      .element [] ifB (.single [] setC (.text [])) endB <|
      .single [] setD <| .element [] ifD (.text ['z']) endD <| .text []
  have proper : forest.Proper := by
    simp [forest, setA, ifA, endA, ifB, setC, endB, setD, ifD, endD, Forest.Proper]
  have scanned : forest.scan = Markup.scan setting.registry.namespaces text.toList := by
    rw [String.toList_append, String.toList_append, String.toList_ofList, String.toList_ofList,
      String.toList_ofList]
    decide +kernel
  have static : forest.scan.IsStatic := by
    constructor <;> simp [forest, setA, ifA, endA, ifB, setC, endB, setD, ifD, endD, Forest.scan,
      Forest.parts, Forest.tail, Markup.Occurrence.IsStatic]
  have emits : ((forest.read setting .empty).toOption.any fun result : String × Statics =>
      result.1 = "xyz" ∧ result.2.entries = [("a", "1"), ("d", "12")]) = true := by decide +kernel
  obtain ⟨⟨emitted, statics⟩, read, rfl, set⟩ := exists_of_any emits
  obtain ⟨compiles, reads⟩ := compileTemplate_reads setting text rfl (scanned ▸ static)
  obtain ⟨compiled, done⟩ := compiles.mpr ⟨forest, proper, scanned, _, read⟩
  obtain ⟨emitted, again, rendered⟩ := (reads forest proper scanned).2 compiled done
  cases read.symm.trans again
  exact ⟨compiled, done, set, rendered⟩

end Stencil
