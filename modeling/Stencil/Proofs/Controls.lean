import Stencil.Proofs.Forms

/-!
# The controls of a view

What a view shows of a field are the segments its tag has left. Every one of them is left
by a field whose value is validated, unless the field stands inside of a radio field.
-/
namespace Stencil

/-- The field a segment shows the value of. -/
def Segment.field? : Segment → Option String
  | .fieldValue name _ | .checked name _ _ | .radioChecked name _ _ | .options name _ _ _ =>
    some name
  | _ => none

mutual
/-- The segments that show the value of a field, in a segment and what is in it. -/
def Segment.controls : Segment → List Segment
  | .ifErrors body => controlsIn body
  | segment => if segment.field?.isSome then [segment] else []

def Segment.controlsIn : List Segment → List Segment
  | [] => []
  | segment :: rest => segment.controls ++ controlsIn rest
end

/-- Tags whose fragment has that of their body in it. -/
def TagKind.showsBody : TagKind → Bool
  | .root | .form _ | .radio | .errors | .staticIf _ | .staticSet => true
  | _ => false

mutual
/-- Controls are dynamic segments. -/
theorem Segment.controls_eq_filter (segment : Segment) :
    segment.controls = segment.dynamics.filter fun inner => inner.field?.isSome := by
  cases segment with
  | ifErrors body => exact Segment.controlsIn_eq_filter body
  | _ => rfl

theorem Segment.controlsIn_eq_filter (segments : List Segment) :
    Segment.controlsIn segments
      = (Segment.dynamicsIn segments).filter fun inner => inner.field?.isSome := by
  cases segments with
  | nil => rfl
  | cons segment rest =>
    simp [Segment.controlsIn, Segment.dynamicsIn, Segment.controls_eq_filter segment,
      Segment.controlsIn_eq_filter rest]
end

namespace Fragment

open Segment (controlsIn controlsIn_eq_filter controls_eq_filter)

theorem controls_text (s : String) : (Segment.text s).controls = [] := rfl

@[simp]
theorem controlsIn_pushText (fragment : Fragment) (s : String) :
    controlsIn (fragment.pushText s) = controlsIn fragment := by
  simp [controlsIn_eq_filter]

@[simp]
theorem controlsIn_ofText (s : String) : controlsIn (ofText s) = [] := by
  simp [controlsIn_eq_filter]

@[simp]
theorem controlsIn_push (fragment : Fragment) (segment : Segment) :
    controlsIn (fragment.push segment) = controlsIn fragment ++ segment.controls := by
  simp [controlsIn_eq_filter, controls_eq_filter]

@[simp]
theorem controlsIn_append (fragment other : Fragment) :
    controlsIn (fragment.append other) = controlsIn fragment ++ controlsIn other := by
  simp [controlsIn_eq_filter]

end Fragment

/-! ### The final pass -/

namespace Bindings

open Segment (controlsIn)

variable {bindings : Bindings} {file source : String}

/-- Nothing a placeholder is replaced by shows the value of a field. -/
theorem controls_replacement {written : Written} {segment : Segment}
    (done : bindings.replacement written = .ok segment) : segment.controls = [] := by
  unfold replacement at done
  split at done
  · cases done
    rfl
  · cases done
    rfl
  · cases done
    rfl
  · obtain ⟨expr, -, rfl⟩ := map_eq_ok.mp done
    rfl
  · obtain ⟨expr, -, rfl⟩ := map_eq_ok.mp done
    rfl
  · obtain ⟨⟨name, expr⟩, -, rfl⟩ := map_eq_ok.mp done
    rfl

private theorem controlsIn_expandPieces {done expanded : Fragment} {pieces : List Piece}
    (ran : bindings.expandPieces done pieces = .ok expanded) :
    controlsIn expanded = controlsIn done := by
  induction pieces generalizing done with
  | nil =>
    cases ran
    rfl
  | cons piece rest ih =>
    cases piece with
    | plain text =>
      rw [ih ran]
      simp
    | placeholder written =>
      rw [expandPieces] at ran
      split at ran
      · next segment replaced =>
        rw [ih ran]
        simp [controls_replacement replaced]
      · cases ran

mutual

private theorem controlsIn_expandSegment {done expanded : Fragment} (segment : Segment)
    (ran : bindings.expandSegment file source done segment = .ok expanded) :
    controlsIn expanded = controlsIn done ++ segment.controls := by
  cases segment with
  | text s =>
    rw [expandSegment] at ran
    split at ran
    · next fragment replaced =>
      cases ran
      have none : controlsIn fragment = [] := controlsIn_expandPieces replaced
      simp [none, Fragment.controls_text]
    · cases ran
  | ifErrors body =>
    rw [expandSegment] at ran
    obtain ⟨inner, within, ran⟩ := bind_eq_ok.mp ran
    cases ran
    have same := controlsIn_expandSegments body within
    simpa [Segment.controls, controlsIn] using same
  | _ =>
    cases ran
    simp

private theorem controlsIn_expandSegments {done expanded : Fragment} (segments : List Segment)
    (ran : bindings.expandSegments file source done segments = .ok expanded) :
    controlsIn expanded = controlsIn done ++ controlsIn segments := by
  cases segments with
  | nil =>
    cases ran
    simp [controlsIn]
  | cons segment rest =>
    rw [expandSegments] at ran
    obtain ⟨next, first, later⟩ := bind_eq_ok.mp ran
    rw [controlsIn_expandSegments rest later, controlsIn_expandSegment segment first, controlsIn,
      List.append_assoc]

end

/-- The final pass keeps every control. -/
theorem controlsIn_expand {body expanded : Fragment}
    (ran : bindings.expand file source body = .ok expanded) :
    controlsIn expanded = controlsIn body :=
  controlsIn_expandSegments body ran

end Bindings

/-! ### What tags leave -/

namespace Node

open Segment (controlsIn)

/-- What a radio field makes of a segment of its body: a control for every value in a
text. -/
def radioControls (head : Head) : Segment → List Segment
  | .text s => (filledBrackets s.toList).1.map fun part =>
    .radioChecked head.fieldName (String.ofList part.inner) (head.attr? "x:default")
  | segment => segment.controls

private theorem controlsIn_radioText (head : Head) (index : Nat) (fragment : Fragment)
    (parts : List Bracketed) (tail : List Char) :
    controlsIn (radioText head index fragment parts tail).1
      = controlsIn fragment ++ parts.map fun part =>
        .radioChecked head.fieldName (String.ofList part.inner) (head.attr? "x:default") := by
  induction parts generalizing index fragment with
  | nil => simp [radioText]
  | cons part rest ih =>
    rw [radioText, ih]
    simp [radioButton, Segment.controls, Segment.field?]

private theorem controlsIn_radioFrom (head : Head) (index : Nat) (fragment : Fragment)
    (body : List Segment) :
    controlsIn (radioFrom head index fragment body)
      = controlsIn fragment ++ body.flatMap (radioControls head) := by
  induction body generalizing index fragment with
  | nil => simp [radioFrom]
  | cons segment rest ih =>
    cases segment with
    | text s =>
      rw [radioFrom, ih, controlsIn_radioText, List.flatMap_cons, List.append_assoc]
      rfl
    | _ =>
      rw [radioFrom, ih, Fragment.controlsIn_push, List.flatMap_cons, List.append_assoc]
      · rfl
      · intro s contrary
        cases contrary

private theorem controlsIn_errorsFrom (fragment : Fragment) (body : List Segment) :
    controlsIn (errorsFrom fragment body) = controlsIn fragment ++ controlsIn body := by
  induction body generalizing fragment with
  | nil => simp [errorsFrom, controlsIn]
  | cons segment rest ih =>
    cases segment with
    | text s =>
      rw [errorsFrom]
      split
      · next before template after found =>
        have pushed := Fragment.controlsIn_append
          (((fragment.pushText (String.ofList before)).push
            (.eachError (String.ofList template))).pushText (String.ofList after)) rest
        refine pushed.trans ?_
        simp [controlsIn, Segment.controls, Segment.field?]
      · rw [ih]
        simp [controlsIn, Fragment.controls_text]
    | _ =>
      rw [errorsFrom, ih, Fragment.controlsIn_push, controlsIn, List.append_assoc]
      intro s contrary
      cases contrary

/-- The controls in what a tag leaves. -/
theorem controlsIn_render (messages : Messages) (node : Node) :
    controlsIn (node.render messages) =
      match node.kind with
      | .root | .form _ | .errors | .staticIf _ | .staticSet => controlsIn node.body
      | .text kind =>
        if kind = .password then []
        else [.fieldValue node.head.fieldName (node.head.attr? "x:default")]
      | .checkbox =>
        [.checked node.head.fieldName (node.head.attrD "x:on" "") (node.head.attr? "x:default")]
      | .select multiple =>
        [.options node.head.fieldName node.selectSource (node.head.attr? "x:default") multiple]
      | .radio => node.body.flatMap (radioControls node.head)
      | .file | .group _ | .button _ => [] := by
  unfold render
  cases kind : node.kind with
  | root => rfl
  | staticIf comparison => rfl
  | staticSet => rfl
  | form ids => simp [renderForm]
  | errors => simp [renderErrors, Segment.controls, controlsIn, controlsIn_errorsFrom]
  | text style =>
    cases style <;> simp [renderText, Segment.controls, Segment.field?]
  | checkbox => simp [renderCheckbox, Segment.controls, Segment.field?]
  | select multiple => simp [renderSelect, Segment.controls, Segment.field?]
  | radio => simp [renderRadio, controlsIn_radioFrom, controlsIn]
  | file => simp [renderFile]
  | group condition => rfl
  | button style => simp [renderButton]

variable {messages : Messages} {node : Node} {control : Segment}

private theorem mem_radioControls {head : Head} {body : List Segment}
    (member : control ∈ body.flatMap (radioControls head)) :
    control.field? = some head.fieldName ∨ control ∈ controlsIn body := by
  induction body with
  | nil => cases member
  | cons segment rest ih =>
    rw [List.flatMap_cons] at member
    rw [controlsIn]
    rcases List.mem_append.mp member with first | later
    · cases segment with
      | text s =>
        obtain ⟨part, -, rfl⟩ := List.mem_map.mp first
        exact .inl rfl
      | _ => exact .inr (List.mem_append_left _ first)
    · exact (ih later).imp id (List.mem_append_right _)

private theorem mem_flatMap_radioControls (head : Head) {body : List Segment}
    (member : control ∈ controlsIn body) : control ∈ body.flatMap (radioControls head) := by
  induction body with
  | nil => cases member
  | cons segment rest ih =>
    rw [controlsIn] at member
    rw [List.flatMap_cons]
    rcases List.mem_append.mp member with first | later
    · cases segment with
      | text s => cases first
      | _ => exact List.mem_append_left _ first
    · exact List.mem_append_right _ (ih later)

/-- The controls a tag leaves are of its own field, or are those in its body. -/
theorem mem_controls_render (member : control ∈ controlsIn (node.render messages)) :
    (node.kind.validates ∧ control.field? = some node.head.fieldName) ∨
      (node.kind.showsBody ∧ control ∈ controlsIn node.body) := by
  rw [controlsIn_render] at member
  cases kind : node.kind with
  -- A field leaves its own control, anything else those of its body or none.
  | text style =>
    simp only [kind] at member
    split at member
    · cases member
    · obtain rfl := List.mem_singleton.mp member
      exact .inl ⟨rfl, rfl⟩
  | checkbox =>
    simp only [kind] at member
    obtain rfl := List.mem_singleton.mp member
    exact .inl ⟨rfl, rfl⟩
  | select multiple =>
    simp only [kind] at member
    obtain rfl := List.mem_singleton.mp member
    exact .inl ⟨rfl, rfl⟩
  | radio =>
    simp only [kind] at member
    exact (mem_radioControls member).imp (fun own => ⟨rfl, own⟩) (fun inside => ⟨rfl, inside⟩)
  | file =>
    simp only [kind] at member
    cases member
  | group condition =>
    simp only [kind] at member
    cases member
  | button style =>
    simp only [kind] at member
    cases member
  | _ =>
    simp only [kind] at member
    exact .inr ⟨rfl, member⟩

/-- Tags that show their body show the controls in it. -/
theorem mem_controls_of_showsBody (shows : node.kind.showsBody)
    (member : control ∈ controlsIn node.body) : control ∈ controlsIn (node.render messages) := by
  rw [controlsIn_render]
  cases kind : node.kind with
  | radio => exact mem_flatMap_radioControls node.head member
  | _ =>
    rw [kind] at shows
    first
    | exact member
    | cases shows

end Node

/-! ### What templates show -/

/-- That a field has left a control which all tags around it show. -/
def Entry.Leaves (messages : Messages) (entry : Entry) (control : Segment) : Prop :=
  (∀ tag ∈ entry.around, tag.kind.showsBody) ∧ entry.tag.kind.validates ∧
    control.field? = some entry.tag.head.fieldName ∧
    control ∈ Segment.controlsIn (entry.tag.render messages)

/-- The controls a tag leaves are those of the fields in it, itself included, if this holds
of its body. -/
theorem Tree.mem_controls_render {messages : Messages} {tree : Tree} {control : Segment}
    (inside : control ∈ Segment.controlsIn tree.tag.body ↔
      ∃ entry ∈ entriesIn [] tree.inner, entry.Leaves messages control) :
    control ∈ Segment.controlsIn (tree.tag.render messages) ↔
      ∃ entry ∈ tree.entries [], entry.Leaves messages control := by
  constructor
  · intro member
    rcases Node.mem_controls_render member with ⟨field, own⟩ | ⟨shows, within⟩
    · exact ⟨⟨[], tree.tag⟩, mem_entries.mpr (.inl rfl), nofun, field, own, member⟩
    · obtain ⟨entry, found, around, left⟩ := inside.mp within
      refine ⟨_, mem_entries.mpr (.inr ⟨entry, found, rfl⟩), ?_, left⟩
      intro tag isAround
      rcases List.mem_append.mp isAround with further | here
      · exact around tag further
      · rwa [List.mem_singleton.mp here]
  · rintro ⟨entry, found, around, left⟩
    rcases mem_entries.mp found with rfl | ⟨inner, member, rfl⟩
    · exact left.2.2
    · have shows : tree.tag.kind.showsBody := around tree.tag (by simp)
      have outer : ∀ tag ∈ inner.around, tag.kind.showsBody := by
        intro tag further
        exact around tag (List.mem_append_left _ further)
      exact Node.mem_controls_of_showsBody shows (inside.mpr ⟨inner, member, outer, left⟩)

/-- The controls at a place are those the fields there have left. -/
theorem Forest.mem_controls_of_grow {setting : Setting} {forest : Forest} {site : Site}
    (grown : forest.grow setting {} = .ok site) (control : Segment) :
    control ∈ Segment.controlsIn site.body ↔
      ∃ entry ∈ Tree.entriesIn [] site.trees, entry.Leaves setting.config.messages control := by
  -- The controls at a place are those its tags have left, whatever grows there.
  let shown (site : Site) : Prop := control ∈ Segment.controlsIn site.body ↔
    ∃ entry ∈ Tree.entriesIn [] site.trees, entry.Leaves setting.config.messages control
  have start : shown {} := by simp [shown, Segment.controlsIn, Tree.entriesIn]
  change shown site
  refine Forest.grow_invariant ?_ ?_ ?_ grown start
  · intro site text before
    have same : Segment.controlsIn (site.pushText text).body = Segment.controlsIn site.body :=
      Fragment.controlsIn_pushText site.body (String.ofList text)
    change control ∈ Segment.controlsIn (site.pushText text).body ↔ _
    rw [same]
    exact before
  · intro site around occurrence tag opened before
    obtain ⟨_, _, _, _, _, _, _, form, _, _, rfl⟩ := Site.openTag_eq_ok opened
    exact before
  · intro site around within occurrence tag opened follows inside before
    have shows : shown within := by
      refine inside ?_
      simp [shown, Site.inside, Segment.controlsIn, Tree.entriesIn]
    -- The tag's own controls and those of its body, which its entry lists.
    have closed : control ∈ Segment.controlsIn
          ((within.closed tag).tag.render setting.config.messages) ↔
        ∃ entry ∈ (within.closed tag).entries [], entry.Leaves setting.config.messages control :=
      Tree.mem_controls_render shows
    change control ∈ Segment.controlsIn (around.body.append _) ↔
      ∃ entry ∈ Tree.entriesIn [] (around.trees ++ [within.closed tag]), _
    rw [Fragment.controlsIn_append, List.mem_append, Tree.entriesIn_append,
      Tree.entriesIn_singleton]
    simp only [List.mem_append, or_and_right, exists_or]
    exact or_congr before closed

/-- The controls of a view are those the fields of the template have left. -/
theorem Compiled.GrownFrom.mem_controls {setting : Setting} {text : String} {compiled : Compiled}
    {site : Site} (grown : compiled.GrownFrom setting text site) (control : Segment) :
    control ∈ Segment.controlsIn compiled.view.body ↔
      ∃ entry ∈ Tree.entriesIn [] site.trees, entry.Leaves setting.config.messages control := by
  obtain ⟨⟨forest, -, -, grown⟩, view, -⟩ := grown
  rw [Bindings.controlsIn_expand view]
  exact Forest.mem_controls_of_grow grown control

/-- The only value tags that show what is in them are radio fields. -/
private theorem TagKind.eq_radio_of_showsBody {kind : TagKind} (value : kind.isValueTag)
    (shows : kind.showsBody) : kind = .radio := by
  cases kind with
  | radio => rfl
  | root | form | errors | staticIf | staticSet => exact absurd value Bool.false_ne_true
  | _ => exact absurd shows Bool.false_ne_true

private theorem TagKind.showsBody_of_not_isValueTag {kind : TagKind}
    (noValue : kind.isValueTag = false) : kind.showsBody := by
  cases kind with
  | root | form | errors | staticIf | staticSet => rfl
  | _ => exact absurd noValue.symm Bool.false_ne_true

/-- What a field leaves that is in no other value tag is shown. -/
theorem Entry.leaves_of_isListed {messages : Messages} {entry : Entry} {control : Segment}
    (listed : entry.isListed) (field : entry.tag.kind.validates)
    (name : control.field? = some entry.tag.head.fieldName)
    (own : control ∈ Segment.controlsIn (entry.tag.render messages)) :
    entry.Leaves messages control := by
  refine ⟨?_, field, name, own⟩
  intro tag around
  have noValue := List.all_eq_true.mp listed tag around
  exact TagKind.showsBody_of_not_isValueTag ((Bool.not_eq_true' _).mp noValue)

/-- Nothing is shown of a field that is not validated, except inside of radio fields: every
control of a view is of a field one of the forms validates, or was left by a field inside
of a radio field. -/
theorem compileTemplate_controls {setting : Setting} {text : String} {compiled : Compiled}
    (compiles : compileTemplate setting text = .ok compiled) :
    ∃ site, compiled.GrownFrom setting text site ∧
      ∀ control ∈ Segment.controlsIn compiled.view.body, ∃ name, control.field? = some name ∧
        ((∃ form ∈ compiled.forms, name ∈ form.fields ∧
            ∃ validator ∈ form.validators, validator.name = name) ∨
          ∃ entry ∈ Tree.entriesIn [] site.trees, entry.tag.kind.validates ∧
            entry.tag.head.fieldName = name ∧
            control ∈ Segment.controlsIn (entry.tag.render setting.config.messages) ∧
            ∃ tag ∈ entry.around, tag.kind = .radio) := by
  obtain ⟨site, grown, formed⟩ := compileTemplate_grows compiles
  refine ⟨site, grown, ?_⟩
  intro control member
  obtain ⟨entry, found, shown, field, name, own⟩ := (grown.mem_controls control).mp member
  refine ⟨entry.tag.head.fieldName, name, ?_⟩
  cases listed : entry.isListed with
  | true =>
    obtain ⟨form, output, validator, validates⟩ :=
      exists_validates_of_listed grown formed found listed field
    obtain ⟨names, same⟩ := validates.names
    refine .inl ⟨form, output, ?_, validator, validates.member, same⟩
    rw [names, ← same]
    exact List.mem_map_of_mem validates.member
  | false =>
    -- A value tag around a control that is shown is a radio field.
    obtain ⟨tag, around, value⟩ : ∃ tag ∈ entry.around, tag.kind.isValueTag = true := by
      simpa [Entry.isListed] using listed
    exact .inr ⟨entry, found, field, rfl, own, tag, around,
      TagKind.eq_radio_of_showsBody value (shown tag around)⟩

/-- Two of three controls are of fields that are validated, and one is in a radio field. -/
theorem compileTemplate_controls_page :
    let setting : Setting := ⟨.builtin, {}, "page"⟩
    let text := "<form:form id=\"f\"><form:text id=\"a\"/>" ++
      "<form:radio id=\"b\">[x]<form:text id=\"c\"/></form:radio></form:form>"
    ∃ compiled, compileTemplate setting text = .ok compiled ∧
      (Segment.controlsIn compiled.view.body).map Segment.field? = [some "a", some "b", some "c"] ∧
      ∃ site, compiled.GrownFrom setting text site ∧
        ∀ control ∈ Segment.controlsIn compiled.view.body, ∃ name, control.field? = some name ∧
          ((∃ form ∈ compiled.forms, name ∈ form.fields ∧
              ∃ validator ∈ form.validators, validator.name = name) ∨
            ∃ entry ∈ Tree.entriesIn [] site.trees, entry.tag.kind.validates ∧
              entry.tag.head.fieldName = name ∧
              control ∈ Segment.controlsIn (entry.tag.render setting.config.messages) ∧
              ∃ tag ∈ entry.around, tag.kind = .radio) := by
  intro setting text
  have evaluated : ((compileTemplate setting text).toOption.any fun compiled : Compiled =>
      (Segment.controlsIn compiled.view.body).map Segment.field?
        = [some "a", some "b", some "c"]) = true := by
    rw [compileTemplate, String.toList_append, String.toList_ofList, String.toList_ofList]
    decide +kernel
  obtain ⟨compiled, compiles, shown⟩ := exists_of_any evaluated
  exact ⟨compiled, compiles, shown, compileTemplate_controls compiles⟩

/-- A text field in a radio field is shown, and no form knows of it. -/
theorem compileTemplate_shows_unvalidated :
    let text :=
      "<form:form id=\"f\"><form:radio id=\"r\"><form:text id=\"t\"/></form:radio></form:form>"
    ∃ compiled, compileTemplate ⟨.builtin, {}, "page"⟩ text = .ok compiled ∧
      ∃ control ∈ Segment.controlsIn compiled.view.body, control.field? = some "t" ∧
        ∀ form ∈ compiled.forms, "t" ∉ form.fields ∧
          ∀ validator ∈ form.validators, validator.name ≠ "t" := by
  intro text
  have evaluated : ((compileTemplate ⟨.builtin, {}, "page"⟩ text).toOption.any
      fun compiled : Compiled =>
      (∃ control ∈ Segment.controlsIn compiled.view.body, control.field? = some "t") ∧
      ∀ form ∈ compiled.forms, "t" ∉ form.fields ∧
        ∀ validator ∈ form.validators, validator.name ≠ "t") = true := by
    rw [compileTemplate, String.toList_ofList]
    decide +kernel
  obtain ⟨compiled, compiles, ⟨control, shown, name⟩, unknown⟩ := exists_of_any evaluated
  exact ⟨compiled, compiles, control, shown, name, unknown⟩

end Stencil
