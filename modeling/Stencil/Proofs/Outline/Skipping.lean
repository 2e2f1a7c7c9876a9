import Stencil.Proofs.Outline.Matching
import Stencil.Proofs.Outline.Static

/-!
# What is left out

While something is left out, tags are opened and closed, and nothing else happens: the
outline around it stays as it is. Behind a conditional that fails a compile therefore
goes on as if there were nothing in it.
-/
namespace Stencil

open Markup (Occurrence)

namespace Outline

variable {outline : Outline} {tag : Occurrence}

/-- A tag that is left out keeps its attributes as they are written. -/
theorem attributesOf_inactive (setting : Setting) (statics : Statics) (tag : Occurrence) :
    ∃ attributes, setting.attributesOf statics false tag = .ok attributes := by
  have written (entries : List (String × String)) :
      entries.mapM (fun entry => (Except.ok entry.2 : Except CompileError String).map
        fun value => (entry.1, value)) = .ok entries :=
    List.mapM_pure.trans (congrArg Except.ok (List.map_id entries))
  refine ⟨.ofList (Markup.attributes tag.attributeText), ?_⟩
  simp only [Setting.attributesOf, Bool.false_eq_true, if_false, written]
  rfl

/-- Opening a tag that is left out. -/
theorem openTag_inactive (setting : Setting) (tag : Occurrence) (kind : TagKind)
    (inactive : outline.active = false) :
    ∃ attributes, outline.openTag setting tag kind = .ok (
      if tag.selfClosing then outline
      else outline.enter
        { head := ⟨tag.namespaceName, tag.name, attributes, setting.location tag⟩, kind }
        ((kind.passes? outline.statics).map fun _ => false)) := by
  obtain ⟨attributes, read⟩ := attributesOf_inactive setting outline.statics tag
  refine ⟨attributes, ?_⟩
  have unchanged := outline.opened_of_arena
    ⟨tag.namespaceName, tag.name, attributes, setting.location tag⟩ kind rfl
  unfold openTag initOpening
  rw [inactive, read]
  simp only [bind, Except.bind, Bool.false_eq_true, if_false, Bool.false_and]
  rw [unchanged]
  cases tag.selfClosing with
  | false => rfl
  | true => exact settle_inactive setting inactive _ _

/-- Closing a tag inside of something that is left out. -/
theorem closeTag_inactive (setting : Setting) {parent : Frame} {outer : List Frame}
    (around : outline.outer = parent :: outer) (inactive : outline.skip ≠ 0)
    (names : outline.top.head.namespaceName = tag.namespaceName ∧
      outline.top.head.name = tag.name) :
    outline.closeTag setting tag = .ok { outline with
      top := parent
      outer
      pops := outline.pops + 1
      skip := outline.skip - outline.top.skipping.toNat } := by
  have left : (outline.skip == 0) = false := by simpa using inactive
  rw [closeTag_cons setting tag around, if_neg (by simp [names]), left, if_neg Bool.false_ne_true]

end Outline

/-- An outline inside of something that is left out: that of `base` with these tags open
in it. Text may have been added to what is left out. -/
structure Within (base : Outline) (opened : List Occurrence) (outline : Outline) : Prop where
  frames : ∃ extra body, outline.frames = extra ++ { base.top with body } :: base.outer ∧
    List.Forall₂ (fun frame tag =>
      frame.head.namespaceName = tag.namespaceName ∧ frame.head.name = tag.name) extra opened ∧
    outline.skip = base.skip + extra.countP (·.skipping)
  statics : outline.statics = base.statics
  forms : outline.forms = base.forms

namespace Within

variable {setting : Setting} {base outline : Outline} {opened : List Occurrence}

theorem refl (base : Outline) : Within base [] base :=
  ⟨⟨[], base.top.body, rfl, .nil, rfl⟩, rfl, rfl⟩

private theorem skip_ne_zero (within : Within base opened outline) (left : base.skip ≠ 0) :
    outline.skip ≠ 0 := by
  obtain ⟨⟨extra, body, -, -, count⟩, -, -⟩ := within
  omega

theorem pushText (within : Within base opened outline) (text : List Char) :
    Within base opened (outline.pushText text) := by
  obtain ⟨⟨extra, body, frames, names, count⟩, statics, forms⟩ := within
  refine ⟨?_, statics, forms⟩
  cases names with
  | nil =>
    -- The text goes into the base itself.
    obtain ⟨top, outer⟩ := List.cons.inj frames
    refine ⟨[], Fragment.pushText body (String.ofList text), ?_, .nil, count⟩
    simp only [Outline.frames, Outline.pushText, top, outer, List.nil_append]
  | @cons frame tag extra opened here names =>
    -- The text goes into a tag that is left out.
    obtain ⟨top, outer⟩ := List.cons.inj frames
    refine ⟨{ frame with body := Fragment.pushText frame.body (String.ofList text) } :: extra, body,
      ?_, .cons here names, count⟩
    simp only [Outline.frames, Outline.pushText, top, outer, List.cons_append]
    rfl

theorem openTag (setting : Setting) (within : Within base opened outline) (left : base.skip ≠ 0)
    (tag : Occurrence) (kind : TagKind) :
    ∃ next, outline.openTag setting tag kind = .ok next ∧
      Within base (if tag.selfClosing then opened else tag :: opened) next := by
  have inactive : outline.active = false := by
    simpa [Outline.active] using within.skip_ne_zero left
  obtain ⟨attributes, done⟩ := Outline.openTag_inactive setting tag kind inactive
  refine ⟨_, done, ?_⟩
  cases tag.selfClosing with
  | true => exact within
  | false =>
    obtain ⟨⟨extra, body, frames, names, count⟩, statics, forms⟩ := within
    refine ⟨⟨_ :: extra, body, congrArg _ frames, .cons ⟨rfl, rfl⟩ names, ?_⟩, statics, forms⟩
    rw [Frame.countP_skipping_cons, ← Nat.add_assoc, ← count]
    rfl

theorem closeTag (setting : Setting) {tag top : Occurrence}
    (within : Within base (top :: opened) outline) (left : base.skip ≠ 0)
    (names : top.namespaceName = tag.namespaceName ∧ top.name = tag.name) :
    ∃ next, outline.closeTag setting tag = .ok next ∧ Within base opened next := by
  have skipping := within.skip_ne_zero left
  obtain ⟨⟨extra, body, frames, innermost, count⟩, statics, forms⟩ := within
  cases innermost with
  | @cons frame _ extra _ here rest =>
    obtain ⟨innermost, around⟩ := List.cons.inj frames
    -- What is around the tag that is closed has the base at its end, so it is not empty.
    obtain ⟨parent, outer, outside⟩ : ∃ parent outer, outline.outer = parent :: outer := by
      rw [around]
      cases extra with
      | nil => exact ⟨_, _, rfl⟩
      | cons next extra => exact ⟨_, _, rfl⟩
    have same : outline.top.head.namespaceName = tag.namespaceName ∧
        outline.top.head.name = tag.name := by
      rw [innermost]
      exact ⟨here.1.trans names.1, here.2.trans names.2⟩
    refine ⟨_, Outline.closeTag_inactive setting outside skipping same,
      ⟨extra, body, ?_, rest, ?_⟩, statics, forms⟩
    · exact outside.symm.trans around
    · -- The counter loses what it gained when the tag was opened.
      rw [Frame.countP_skipping_cons] at count
      change outline.skip - outline.top.skipping.toNat = _
      rw [innermost]
      omega

theorem visit {part : Markup.Part} {opened' : List Occurrence}
    (within : Within base opened outline) (left : base.skip ≠ 0)
    (fits : matchTag setting.registry opened part.tag = .ok opened') :
    ∃ next, outline.visit setting part = .ok next ∧ Within base opened' next := by
  have pushed := within.pushText part.gap
  obtain ⟨known, cases⟩ := matchTag_eq_ok fits
  obtain ⟨kind, registered⟩ := Option.isSome_iff_exists.mp known
  rcases cases with ⟨opens, closes, rfl⟩ | ⟨opens, plain, rfl⟩ | ⟨closing, plain, top, rfl, names⟩
  · rw [Outline.visit_opening registered opens]
    simpa [closes] using pushed.openTag setting left part.tag kind
  · rw [Outline.visit_opening registered opens]
    simpa [plain] using pushed.openTag setting left part.tag kind
  · rw [Outline.visit_closing registered closing plain]
    exact pushed.closeTag setting left names

/-- Well-nested tags that are left out change nothing around them. -/
theorem run {parts : List Markup.Part} {opened' : List Occurrence}
    (within : Within base opened outline) (left : base.skip ≠ 0)
    (fits : (parts.map (·.tag)).foldlM (matchTag setting.registry) opened = .ok opened') :
    ∃ next, parts.foldlM (Outline.visit setting) outline = .ok next ∧ Within base opened' next := by
  induction parts generalizing outline opened with
  | nil =>
    cases fits
    exact ⟨outline, rfl, within⟩
  | cons part rest ih =>
    rw [List.map_cons, List.foldlM_cons] at fits
    obtain ⟨middle, here, later⟩ := bind_eq_ok.mp fits
    obtain ⟨next, done, within'⟩ := within.visit left here
    obtain ⟨last, ran, within''⟩ := ih within' later
    refine ⟨last, ?_, within''⟩
    rw [List.foldlM_cons, done]
    exact ran

end Within

namespace Outline

variable {setting : Setting} {outline : Outline}

/-- A conditional that is opened here does not hold, if its attributes and its
comparison can be read. -/
def Fails (setting : Setting) (outline : Outline) (tag : Occurrence) : Prop :=
  ∀ attributes condition,
    setting.attributesOf outline.statics outline.active tag = .ok attributes →
    Comparison.ofHead ⟨tag.namespaceName, tag.name, attributes, setting.location tag⟩
      = .ok condition →
    condition.holds outline.statics = false

/-- A conditional that does not hold where it is opened, if it is looked at. -/
theorem openTag_failing {tag : Occurrence} {comparison : Option Comparison} {next : Outline}
    (plain : tag.selfClosing = false) (fails : outline.active → outline.Fails setting tag)
    (done : outline.openTag setting tag (.staticIf comparison) = .ok next) :
    ∃ frame, next = outline.enter frame (some false) ∧
      frame.head.namespaceName = tag.namespaceName ∧ frame.head.name = tag.name := by
  cases active : outline.active with
  | false =>
    -- Where something is left out a conditional counts as one that fails.
    obtain ⟨attributes, opened⟩ := openTag_inactive setting tag (.staticIf comparison) active
    rw [opened, plain] at done
    cases done
    exact ⟨_, rfl, rfl, rfl⟩
  | true =>
    rw [openTag_staticIf active, plain] at done
    obtain ⟨attributes, read, done⟩ := bind_eq_ok.mp done
    obtain ⟨condition, compared, done⟩ := bind_eq_ok.mp done
    have failing := fails active attributes condition (active.symm ▸ read) compared
    cases done
    let frame : Frame := {
      head := ⟨tag.namespaceName, tag.name, attributes, setting.location tag⟩
      kind := .staticIf (some condition) }
    exact ⟨frame, by rw [failing], rfl, rfl⟩

/-- Behind a conditional that fails an outline is what it was before it. -/
theorem run_left_out {frame : Frame} {inner : List Markup.Part} {closing : Markup.Part}
    {kind : TagKind}
    (fits : (inner.map (·.tag)).foldlM (matchTag setting.registry) [] = .ok [])
    (known : setting.registry.tag? closing.tag.namespaceName closing.tag.name = some kind)
    (closes : closing.tag.closing = true) (plain : closing.tag.selfClosing = false)
    (names : frame.head.namespaceName = closing.tag.namespaceName ∧
      frame.head.name = closing.tag.name) :
    ∃ pushes pops, (inner ++ [closing]).foldlM (visit setting) (outline.enter frame (some false))
      = .ok { outline with pushes, pops } := by
  have left : (outline.enter frame (some false)).skip ≠ 0 := Nat.succ_ne_zero _
  obtain ⟨last, ran, within⟩ := (Within.refl _).run left fits
  have pushed := within.pushText closing.gap
  have skipping := pushed.skip_ne_zero left
  obtain ⟨⟨extra, body, frames, none, count⟩, statics, forms⟩ := pushed
  cases none
  -- All tags inside are closed, so the conditional is the innermost one again.
  obtain ⟨top, outer⟩ := List.cons.inj frames
  have around : (last.pushText closing.gap).outer = outline.top :: outline.outer := outer
  have same : (last.pushText closing.gap).top.head.namespaceName = closing.tag.namespaceName ∧
      (last.pushText closing.gap).top.head.name = closing.tag.name := by
    rw [top]
    exact names
  have closed := closeTag_inactive setting around skipping same
  refine ⟨last.pushes, last.pops + 1, ?_⟩
  rw [List.foldlM_append, ran]
  change List.foldlM (visit setting) last [closing] = _
  rw [List.foldlM_cons, visit_closing known closes plain, closed]
  have skip : (last.pushText closing.gap).skip - (last.pushText closing.gap).top.skipping.toNat
      = outline.skip := by
    rw [top, count]
    rfl
  rw [skip, statics, forms]
  rfl

end Outline

end Stencil
