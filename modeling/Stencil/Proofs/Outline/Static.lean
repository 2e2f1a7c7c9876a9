import Stencil.Proofs.Outline.EnclosingForm

/-!
# Tags for static attributes

Conditionals and tags that set a static attribute see the static attributes only, not
the form they may stand in.
-/
namespace Stencil.Outline

variable {setting : Setting} {outline : Outline} {tag : Markup.Occurrence}

/-- An opening that leaves the form around it alone changes at most the static
attributes. -/
theorem opened_of_arena (outline : Outline) (head : Head) (kind : TagKind) {opening : Opening}
    (same : opening.arena = (outline.opening head kind).arena) :
    outline.opened opening = { outline with statics := opening.statics } := by
  have form := outline.kind_withForm_opening head kind none
  rw [Opening.withForm, ← same] at form
  rw [opened, form]
  cases found : outline.form? with
  | none => rfl
  | some form =>
    -- The form gets the kind it has.
    have kept : Frame.changeForm form.kind outline.frames = outline.frames :=
      Frame.changeForm_self found
    simp only [Option.map_some, Option.getD_none, changeForm, kept]
    rfl

/-- Opening a conditional where it is looked at. -/
theorem openTag_staticIf {comparison : Option Comparison} (active : outline.active = true) :
    outline.openTag setting tag (.staticIf comparison) = (do
      let attributes ← setting.attributesOf outline.statics true tag
      let head := ⟨tag.namespaceName, tag.name, attributes, setting.location tag⟩
      let condition ← Comparison.ofHead head
      outline.settle setting { head, kind := .staticIf (some condition) } tag.selfClosing
        (some (condition.holds outline.statics))) := by
  unfold openTag initOpening
  rw [active]
  refine congrArg (_ >>= ·) (funext fun attributes => ?_)
  simp only [if_true, Bool.true_and, Opening.init, opening]
  cases Comparison.ofHead ⟨tag.namespaceName, tag.name, attributes, setting.location tag⟩ with
  | error error => rfl
  | ok condition =>
    let head : Head := ⟨tag.namespaceName, tag.name, attributes, setting.location tag⟩
    let opening : Opening := { outline.opening head (.staticIf comparison) with
      kind := .staticIf (some condition) }
    have unchanged : outline.opened opening = outline :=
      outline.opened_of_arena head (.staticIf comparison) rfl
    change (outline.opened opening).settle setting _ _ _ = _
    rw [unchanged]
    rfl

/-- Opening a tag that sets a static attribute where it is looked at. -/
theorem openTag_staticSet (active : outline.active = true) :
    outline.openTag setting tag .staticSet = (do
      let attributes ← setting.attributesOf outline.statics true tag
      let head := ⟨tag.namespaceName, tag.name, attributes, setting.location tag⟩
      let statics ← outline.statics.set head
      { outline with statics }.settle setting { head, kind := .staticSet } tag.selfClosing
        none) := by
  unfold openTag initOpening
  rw [active]
  refine congrArg (_ >>= ·) (funext fun attributes => ?_)
  simp only [if_true, Bool.true_and, Opening.init, opening]
  cases outline.statics.set ⟨tag.namespaceName, tag.name, attributes, setting.location tag⟩ with
  | error error => rfl
  | ok statics =>
    let head : Head := ⟨tag.namespaceName, tag.name, attributes, setting.location tag⟩
    let opening : Opening := { outline.opening head .staticSet with statics }
    have unchanged : outline.opened opening = { outline with statics } :=
      outline.opened_of_arena head .staticSet rfl
    change (outline.opened opening).settle setting _ _ _ = _
    rw [unchanged]
    rfl

end Stencil.Outline
