import Stencil.Proofs.Markup
import Stencil.Proofs.Outline.EnclosingForm
import Stencil.Proofs.Placeholder

/-!
# Outlines at different places

A compile depends on the places of the tags only in the errors it raises. Two outlines
that agree but for places, run on the same tags at other places, still agree but for
places. The counts of tags that were opened and closed are not compared.
-/
namespace Stencil

variable {p : Location → Location → Prop}

/-- Trees of which a form sees the same. -/
def Tree.Alike (p : Location → Location → Prop) (a b : List Tree) : Prop :=
  List.Forall₂ (Node.Alike p) (visibleIn a) (visibleIn b)

structure Frame.Alike (p : Location → Location → Prop) (a b : Frame) : Prop where
  head : a.head.Alike p b.head
  kind : a.kind = b.kind
  body : a.body = b.body
  inner : Tree.Alike p a.inner b.inner
  skipping : a.skipping = b.skipping

structure Outline.Alike (p : Location → Location → Prop) (a b : Outline) : Prop where
  top : a.top.Alike p b.top
  outer : List.Forall₂ (Frame.Alike p) a.outer b.outer
  skip : a.skip = b.skip
  statics : a.statics = b.statics
  forms : a.forms = b.forms

private theorem Tree.visibleIn_append (trees later : List Tree) :
    visibleIn (trees ++ later) = visibleIn trees ++ visibleIn later := by
  induction trees with
  | nil => rfl
  | cons tree trees ih => simp only [List.cons_append, visibleIn, ih, List.append_assoc]

theorem Tree.Alike.append {a b c d : List Tree} (first : Alike p a b) (second : Alike p c d) :
    Alike p (a ++ c) (b ++ d) := by
  rw [Alike, visibleIn_append, visibleIn_append]
  exact List.rel_append first second

private theorem Form.ofTrees_alike (messages : Messages) {head head' : Head}
    (heads : head.Alike p head') {inner inner' : List Tree} (trees : Tree.Alike p inner inner') :
    Related (ContentErrors p) (· = ·) (ofTrees messages head inner)
      (ofTrees messages head' inner') := by
  unfold ofTrees
  rw [heads.attrD, heads.attr?]
  apply Related.foldlM _ trees rfl
  intro form _ node node' same nodes
  subst same
  exact addNode_alike messages form nodes

namespace Frame.Alike

variable {a b : Frame}

theorem refl (frame : Frame) : frame.Alike (· = ·) frame :=
  ⟨.refl _, rfl, rfl, List.forall₂_same.mpr fun _ _ => ⟨.refl _, rfl, rfl⟩, rfl⟩

theorem node (alike : a.Alike p b) : a.node.Alike p b.node :=
  ⟨alike.head, alike.kind, alike.body⟩

theorem tree (alike : a.Alike p b) : Tree.Alike p [a.tree] [b.tree] := by
  simp only [Tree.Alike, Frame.tree, Tree.visibleIn, Tree.visible, List.append_nil, alike.kind]
  refine .cons ⟨alike.head, rfl, alike.body⟩ ?_
  split
  · exact .nil
  · exact alike.inner

theorem form? (messages : Messages) (alike : a.Alike p b) :
    Related (ContentErrors p) (· = ·) (a.form? messages) (b.form? messages) := by
  unfold Frame.form?
  rw [alike.kind]
  split
  · exact (Form.ofTrees_alike messages alike.head alike.inner).map fun _ _ same => by rw [same]
  · exact .ok rfl

end Frame.Alike

/-- The innermost forms of frames that are alike. -/
theorem Frame.find?_alike {as bs : List Frame} (alike : List.Forall₂ (Frame.Alike p) as bs) :
    Option.Rel (Frame.Alike p) (as.find? (·.kind.isForm)) (bs.find? (·.kind.isForm)) := by
  induction alike with
  | nil => exact .none
  | cons here _ ih =>
    rw [List.find?_cons, List.find?_cons, here.kind]
    split
    · exact .some here
    · exact ih

private theorem Frame.changeForm_alike (kind : TagKind) {as bs : List Frame}
    (alike : List.Forall₂ (Frame.Alike p) as bs) :
    List.Forall₂ (Frame.Alike p) (changeForm kind as) (changeForm kind bs) := by
  induction alike with
  | nil => exact .nil
  | cons here later ih =>
    rw [changeForm, changeForm, here.kind]
    split
    · exact .cons ⟨here.head, rfl, here.body, here.inner, here.skipping⟩ later
    · exact .cons here ih

/-- The attributes of the same tag. -/
theorem Setting.attributesOf_alike (setting : Setting) (statics : Statics) (active : Bool)
    {a b : Markup.Occurrence} (alike : a.Alike b)
    (places : p (setting.location a) (setting.location b)) :
    Related (ContentErrors p) (· = ·) (setting.attributesOf statics active a)
      (setting.attributesOf statics active b) := by
  unfold attributesOf
  rw [alike.attributeText]
  have expanded (value : String) : Related (ContentErrors p) (· = ·)
      ((setting.bindings statics).expandAttribute (setting.location a) value)
      ((setting.bindings statics).expandAttribute (setting.location b) value) := by
    unfold Bindings.expandAttribute
    split
    · exact .ok rfl
    · exact .error (.expression _ _ places)
  refine Related.bind (R := List.Forall₂ (· = ·)) (Related.mapM ?_ _) ?_
  · -- An attribute is expanded where its tag is, or kept as it is written.
    rintro ⟨key, value⟩
    apply Related.map (R := (· = ·)) _ fun _ _ same => by rw [same]
    cases active with
    | true => exact expanded value
    | false => exact .ok rfl
  · intro entries entries' same
    obtain rfl : entries = entries' := by simpa using same
    exact .ok rfl

namespace Outline.Alike

variable {a b : Outline}

theorem refl (outline : Outline) : outline.Alike (· = ·) outline :=
  ⟨.refl _, List.forall₂_same.mpr fun _ _ => .refl _, rfl, rfl, rfl⟩

/-- Outlines that are the same at related places are so at any places. -/
theorem anywhere (alike : a.Alike p b) : a.Alike (fun _ _ => True) b := by
  have heads {x y : Head} (heads : x.Alike p y) : x.Alike (fun _ _ => True) y :=
    ⟨heads.namespaceName, heads.name, heads.attributes, trivial⟩
  have frames {x y : Frame} (frames : x.Alike p y) : x.Alike (fun _ _ => True) y := by
    refine ⟨heads frames.head, frames.kind, frames.body, ?_, frames.skipping⟩
    exact frames.inner.imp fun _ _ node => ⟨heads node.head, node.kind, node.body⟩
  refine ⟨frames alike.top, ?_, alike.skip, alike.statics, alike.forms⟩
  exact alike.outer.imp fun _ _ => frames

theorem frames (alike : a.Alike p b) : List.Forall₂ (Frame.Alike p) a.frames b.frames :=
  .cons alike.top alike.outer

theorem active (alike : a.Alike p b) : a.active = b.active := by
  rw [Outline.active, Outline.active, alike.skip]

theorem pushText (alike : a.Alike p b) (text : List Char) :
    (a.pushText text).Alike p (b.pushText text) where
  top := ⟨alike.top.head, alike.top.kind, congrArg (Fragment.pushText · _) alike.top.body,
    alike.top.inner, alike.top.skipping⟩
  outer := alike.outer
  skip := alike.skip
  statics := alike.statics
  forms := alike.forms

theorem changeForm (alike : a.Alike p b) (change : Option TagKind) :
    (a.changeForm change).Alike p (b.changeForm change) := by
  have changed : List.Forall₂ (Frame.Alike p) (a.changeForm change).frames
      (b.changeForm change).frames := by
    cases change with
    | none => exact alike.frames
    | some kind =>
      rw [frames_changeForm, frames_changeForm]
      exact Frame.changeForm_alike kind alike.frames
  rcases changed with _ | ⟨top, outer⟩
  exact ⟨top, outer, alike.skip, alike.statics, alike.forms⟩

theorem form? (alike : a.Alike p b) : Option.Rel (Frame.Alike p) a.form? b.form? :=
  Frame.find?_alike alike.frames

theorem opening (alike : a.Alike p b) {head head' : Head} (heads : head.Alike p head')
    (kind : TagKind) :
    Opening.Alike p (a.opening head kind) (b.opening head' kind) := by
  refine ⟨heads, rfl, alike.statics, ?_⟩
  rw [form?_opening, form?_opening]
  have forms := alike.form?
  revert forms
  generalize a.form? = form, b.form? = form'
  rintro (same | _)
  · exact .some ⟨same.head, same.kind⟩
  · exact .none

theorem initOpening (setting : Setting) (alike : a.Alike p b) {head head' : Head}
    (heads : head.Alike p head') (kind : TagKind) :
    Related (ContentErrors p)
      (Opening.Initialized p (a.opening head kind) (b.opening head' kind))
      (a.initOpening setting (a.opening head kind))
      (b.initOpening setting (b.opening head' kind)) := by
  unfold Outline.initOpening
  rw [alike.active]
  split
  · exact Opening.init_alike setting.config (alike.opening heads kind)
  · exact .ok (alike.opening heads kind).initialized

theorem opened (alike : a.Alike p b) {head head' : Head} {kind : TagKind} {left right : Opening}
    (done : Opening.Initialized p (a.opening head kind) (b.opening head' kind) left right) :
    (a.opened left).Alike p (b.opened right) := by
  -- The form that was given to both openings has got the same kind.
  have same : (left.arena.node? 0).map Node.kind = (right.arena.node? 0).map Node.kind := by
    obtain ⟨change, leftArena, rightArena⟩ := done.forms
    rw [leftArena, rightArena, kind_withForm_opening, kind_withForm_opening]
    have forms := alike.form?
    revert forms
    generalize a.form? = form, b.form? = form'
    rintro (same | _)
    · rw [Option.map_some, Option.map_some, same.kind]
    · rfl
  have changed := alike.changeForm ((right.arena.node? 0).map Node.kind)
  rw [Outline.opened, Outline.opened, same]
  exact ⟨changed.top, changed.outer, changed.skip, done.statics, changed.forms⟩

theorem draw (setting : Setting) (alike : a.Alike p b) {frame frame' : Frame}
    (frames : frame.Alike p frame') :
    Related (ContentErrors p) (Outline.Alike p) (a.draw setting frame) (b.draw setting frame') := by
  unfold Outline.draw
  refine (frames.form? _).bind fun form _ same => ?_
  subst same
  refine .ok ⟨⟨alike.top.head, alike.top.kind, ?_, ?_, alike.top.skipping⟩, alike.outer, alike.skip,
    alike.statics, congrArg (· ++ _) alike.forms⟩
  · simp only [alike.top.body, Node.render_alike _ frames.node]
  · exact alike.top.inner.append frames.tree

theorem enter (alike : a.Alike p b) {frame frame' : Frame} (frames : frame.Alike p frame')
    (passed : Option Bool) :
    (a.enter frame passed).Alike p (b.enter frame' passed) where
  top := ⟨frames.head, frames.kind, frames.body, frames.inner, rfl⟩
  outer := alike.frames
  skip := congrArg (· + _) alike.skip
  statics := alike.statics
  forms := alike.forms

theorem settle (setting : Setting) (alike : a.Alike p b) {frame frame' : Frame}
    (frames : frame.Alike p frame') (selfClosing : Bool) (passed : Option Bool) :
    Related (ContentErrors p) (Outline.Alike p) (a.settle setting frame selfClosing passed)
      (b.settle setting frame' selfClosing passed) := by
  unfold Outline.settle
  rw [alike.active]
  split
  · exact .ok (alike.enter frames passed)
  · split
    · exact alike.draw setting frames
    · exact .ok alike

/-- Opening the same tag. -/
theorem openTag (setting : Setting) (alike : a.Alike p b) {tag tag' : Markup.Occurrence}
    (tags : tag.Alike tag') (places : p (setting.location tag) (setting.location tag'))
    (kind : TagKind) :
    Related (ContentErrors p) (Outline.Alike p) (a.openTag setting tag kind)
      (b.openTag setting tag' kind) := by
  unfold Outline.openTag
  rw [alike.statics, alike.active]
  refine (setting.attributesOf_alike _ _ tags places).bind fun attributes _ same => ?_
  subst same
  have heads : Head.Alike p ⟨tag.namespaceName, tag.name, attributes, setting.location tag⟩
      ⟨tag'.namespaceName, tag'.name, attributes, setting.location tag'⟩ :=
    ⟨tags.namespaceName, tags.name, rfl, places⟩
  refine (alike.initOpening setting heads kind).bind fun left right done => ?_
  have frame : Frame.Alike p { head := left.head, kind := left.kind }
      { head := right.head, kind := right.kind } :=
    ⟨done.head, done.kind, rfl, .nil, rfl⟩
  rw [tags.selfClosing, done.statics]
  dsimp only
  rw [done.kind] at frame ⊢
  exact (alike.opened done).settle setting frame _ _

/-- Closing the same tag. Which error is raised is not compared. -/
theorem closeTag (setting : Setting) (alike : a.Alike p b) {tag tag' : Markup.Occurrence}
    (tags : tag.Alike tag') :
    Related (fun _ _ => True) (Outline.Alike p) (a.closeTag setting tag)
      (b.closeTag setting tag') := by
  obtain ⟨top, outer, skip, statics, forms⟩ := alike
  rcases around : a.outer with _ | ⟨parent, rest⟩
  · -- Neither has an open tag.
    rw [around] at outer
    rw [Outline.closeTag, Outline.closeTag, around, List.forall₂_nil_left_iff.mp outer]
    exact .error trivial
  · rw [around] at outer
    obtain ⟨parent', rest', parents, rests, around'⟩ := List.forall₂_cons_left_iff.mp outer
    have closed : Outline.Alike p { a with top := parent, outer := rest, pops := a.pops + 1 }
        { b with top := parent', outer := rest', pops := b.pops + 1 } :=
      ⟨parents, rests, skip, statics, forms⟩
    have active : (a.skip == 0) = (b.skip == 0) := by rw [skip]
    rw [closeTag_cons setting tag around, closeTag_cons setting tag' around',
      top.head.namespaceName, top.head.name, tags.namespaceName, tags.name, active]
    split
    · exact .error trivial
    · split
      · exact (closed.draw setting top).mono (fun _ _ _ => trivial) fun _ _ => id
      · exact .ok ⟨parents, rests, by simp only [skip, top.skipping], statics, forms⟩

/-- Visiting the same text and tag. -/
theorem visit (setting : Setting) (alike : a.Alike p b) {part part' : Markup.Part}
    (parts : part.Alike part')
    (places : p (setting.location part.tag) (setting.location part'.tag)) :
    Related (fun _ _ => True) (Outline.Alike p) (a.visit setting part) (b.visit setting part') := by
  unfold Outline.visit
  dsimp only
  rw [parts.tag.closing, parts.tag.selfClosing, parts.tag.namespaceName, parts.tag.name, parts.gap]
  have pushed := alike.pushText part'.gap
  split
  · exact .error trivial
  · cases setting.registry.tag? part'.tag.namespaceName part'.tag.name with
    | none => exact .error trivial
    | some kind =>
      dsimp only
      split
      · exact pushed.closeTag setting parts.tag
      · have opens := pushed.openTag setting parts.tag places kind
        exact opens.mono (fun _ _ _ => trivial) fun _ _ => id

/-- The end of a template, possibly of another text. -/
theorem finish (setting : Setting) (alike : a.Alike p b) (text text' : String) :
    Related (fun _ _ => True)
      (fun c d => c.view = d.view ∧ c.forms = d.forms ∧ c.statics = d.statics)
      (a.finish setting text) (b.finish setting text') := by
  obtain ⟨top, outer, skip, statics, forms⟩ := alike
  rcases around : a.outer with _ | ⟨parent, rest⟩
  · -- All tags are closed; the final pass does not depend on the text.
    rw [around] at outer
    have around' := List.forall₂_nil_left_iff.mp outer
    rw [finish_nil setting text around, finish_nil setting text' around', skip, statics, top.body]
    split
    · exact .error trivial
    · refine ((setting.bindings b.statics).expand_alike setting.source text text'
        b.top.body).map fun body _ same => ?_
      subst same
      exact ⟨rfl, forms, rfl⟩
  · -- Both have a tag left that is not closed.
    rw [around] at outer
    obtain ⟨parent', rest', -, -, around'⟩ := List.forall₂_cons_left_iff.mp outer
    rw [finish_cons setting text around, finish_cons setting text' around']
    exact .error trivial

end Outline.Alike

namespace Outline

variable {setting : Setting} {outline : Outline} {error : CompileError}

/-- Opening a tag fails only because of what is in it. -/
theorem openTag_eq_error {tag : Markup.Occurrence} {kind : TagKind}
    (failed : outline.openTag setting tag kind = .error error) :
    ContentErrors (· = ·) error error := by
  have same : tag.Alike tag := ⟨rfl, rfl, rfl, rfl, rfl⟩
  have alike := (Outline.Alike.refl outline).openTag setting same rfl kind
  exact alike.content_of_error failed

/-- Drawing a tag fails only because of what is in it. -/
theorem draw_eq_error {frame : Frame} (failed : outline.draw setting frame = .error error) :
    ContentErrors (· = ·) error error := by
  have alike := (Outline.Alike.refl outline).draw setting (Frame.Alike.refl frame)
  exact alike.content_of_error failed

end Outline

end Stencil
