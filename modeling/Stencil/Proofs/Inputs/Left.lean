import Stencil.Proofs.Brackets
import Stencil.Proofs.Controls

/-!
# The inputs that tags leave

A radio field leaves an input for every filled bracket in a text of its body, and a checkbox
leaves one. The text of an input ends with the attribute of its value, and behind it is the
control that marks it as checked.
-/
namespace Stencil

namespace Fragment

variable {fragment : Fragment} {value : String} {control : Segment}

/-- That the text before a segment ends with the attribute of a value. -/
def HasInput (fragment : Fragment) (value : String) (control : Segment) : Prop :=
  ∃ before text after, fragment =
    before ++ .text (text ++ " value=\"" ++ Html.escape value ++ "\"") :: control :: after

theorem HasInput.pushText (has : fragment.HasInput value control)
    (notText : ∀ t, control ≠ .text t) (s : String) :
    (fragment.pushText s).HasInput value control := by
  obtain ⟨before, text, after, rfl⟩ := has
  unfold Fragment.pushText
  split
  · exact ⟨before, text, after, rfl⟩
  · refine ⟨before, text, pushNonempty s after, ?_⟩
    have pushed := pushNonempty_append s
      (before ++ [.text (text ++ " value=\"" ++ Html.escape value ++ "\"")]) notText after
    simpa using pushed

theorem HasInput.push (has : fragment.HasInput value control)
    (notText : ∀ t, control ≠ .text t) (segment : Segment) :
    (fragment.push segment).HasInput value control := by
  cases segment with
  | text s => exact has.pushText notText s
  | _ =>
    obtain ⟨before, text, after, rfl⟩ := has
    exact ⟨before, text, _, List.append_assoc _ _ _⟩

/-- An input that is added, with its control. -/
theorem hasInput_push (fragment : Fragment) (element value : String)
    (notText : ∀ t, control ≠ .text t) :
    ((fragment.pushText (element ++ " value=\"" ++ Html.escape value ++ "\"")).push
      control).HasInput value control := by
  have filled : (element ++ " value=\"" ++ Html.escape value ++ "\"").isEmpty = false := by
    simp
  -- The text may join one before it, which the attribute is then the end of.
  obtain ⟨before, t, pushed⟩ := exists_pushNonempty_eq
    (element ++ " value=\"" ++ Html.escape value ++ "\"") fragment
  refine ⟨before, t ++ element, [], ?_⟩
  rw [Fragment.pushText, filled, if_neg Bool.false_ne_true, pushed]
  cases control with
  | text s => exact (notText s rfl).elim
  | _ => simp [Fragment.push, String.append_assoc]

end Fragment

/-- The field and the value of the input a segment marks as checked. -/
def Segment.input? : Segment → Option (String × String)
  | .checked name value _ | .radioChecked name value _ => some (name, value)
  | _ => none

/-- The values of the inputs in a segment of a radio field. -/
def Segment.inputValues : Segment → List String
  | .text s => radioValues s.toList
  | _ => []

namespace Node

/-- The values of the inputs a tag leaves: a radio field has one for every filled bracket in
a text of its body, and a checkbox has one. -/
def inputValues (node : Node) : List String :=
  match node.kind with
  | .checkbox => [node.head.attrD "x:on" ""]
  | .radio => node.body.flatMap Segment.inputValues
  | _ => []

/-- What marks the input with a value as checked. -/
def inputControl (node : Node) (value : String) : Segment :=
  match node.kind with
  | .checkbox => .checked node.head.fieldName value (node.head.attr? "x:default")
  | _ => .radioChecked node.head.fieldName value (node.head.attr? "x:default")

variable {head : Head} {index : Nat} {fragment : Fragment} {value : String} {control : Segment}

private theorem hasInput_radioButton (head : Head) (index : Nat) (value : String)
    (fragment : Fragment) : (radioButton head index value fragment).HasInput value
      (.radioChecked head.fieldName value (head.attr? "x:default")) := by
  have parted : "\" value=\"" = "\"" ++ " value=\"" := rfl
  unfold radioButton
  simp only [parted, ← String.append_assoc]
  refine (Fragment.hasInput_push fragment _ value ?_).pushText ?_ ">"
  · nofun
  · nofun

theorem HasInput.radioText (has : fragment.HasInput value control)
    (notText : ∀ t, control ≠ .text t) (parts : List Bracketed) (tail : List Char) :
    (radioText head index fragment parts tail).1.HasInput value control := by
  induction parts generalizing index fragment with
  | nil => exact has.pushText notText _
  | cons part rest ih =>
    refine ih ?_
    exact (((has.pushText notText _).pushText notText _).push notText _).pushText notText _

private theorem hasInput_radioText {parts : List Bracketed} {tail : List Char} {part : Bracketed}
    (member : part ∈ parts) :
    (Node.radioText head index fragment parts tail).1.HasInput (String.ofList part.inner)
      (.radioChecked head.fieldName (String.ofList part.inner) (head.attr? "x:default")) := by
  induction parts generalizing index fragment with
  | nil => cases member
  | cons first rest ih =>
    rcases List.mem_cons.mp member with rfl | later
    · exact HasInput.radioText (hasInput_radioButton head index _ _) nofun rest tail
    · exact ih later

theorem HasInput.radioFrom (has : fragment.HasInput value control)
    (notText : ∀ t, control ≠ .text t) (body : List Segment) :
    (radioFrom head index fragment body).HasInput value control := by
  induction body generalizing index fragment with
  | nil => exact has
  | cons segment rest ih =>
    cases segment with
    | text s => exact ih (HasInput.radioText has notText _ _)
    | _ => exact ih (has.push notText _)

private theorem hasInput_radioFrom {body : List Segment}
    (member : value ∈ body.flatMap Segment.inputValues) :
    (Node.radioFrom head index fragment body).HasInput value
      (.radioChecked head.fieldName value (head.attr? "x:default")) := by
  induction body generalizing index fragment with
  | nil => cases member
  | cons segment rest ih =>
    rw [List.flatMap_cons] at member
    rcases List.mem_append.mp member with here | later
    · cases segment with
      | text s =>
        obtain ⟨part, isPart, rfl⟩ := List.mem_map.mp here
        exact HasInput.radioFrom (hasInput_radioText isPart) nofun rest
      | _ => cases here
    · cases segment with
      | text s => exact ih later
      | _ => exact ih later

theorem field?_inputControl (node : Node) (value : String) :
    (node.inputControl value).field? = some node.head.fieldName := by
  unfold inputControl
  split <;> rfl

theorem validates_of_mem_inputValues {node : Node} (member : value ∈ node.inputValues) :
    node.kind.validates := by
  unfold inputValues at member
  cases kind : node.kind with
  | checkbox => rfl
  | radio => rfl
  | _ =>
    simp only [kind] at member
    cases member

/-- A tag leaves an input for each of its values. -/
theorem hasInput_render (messages : Messages) (node : Node) (member : value ∈ node.inputValues) :
    (node.render messages).HasInput value (node.inputControl value) := by
  unfold inputValues at member
  unfold inputControl render
  cases kind : node.kind with
  | checkbox =>
    simp only [kind] at member
    obtain rfl := List.mem_singleton.mp member
    refine (Fragment.hasInput_push [] _ _ ?_).pushText ?_ ">"
    · nofun
    · nofun
  | radio =>
    simp only [kind] at member
    exact hasInput_radioFrom member
  | _ =>
    simp only [kind] at member
    cases member

/-- The control of an input is among those its tag leaves. -/
theorem inputControl_mem_controls (messages : Messages) {node : Node}
    (member : value ∈ node.inputValues) :
    node.inputControl value ∈ Segment.controlsIn (node.render messages) := by
  rw [controlsIn_render]
  unfold inputValues at member
  unfold inputControl
  cases kind : node.kind with
  | checkbox =>
    simp only [kind] at member
    obtain rfl := List.mem_singleton.mp member
    exact List.mem_singleton_self _
  | radio =>
    simp only [kind] at member
    obtain ⟨segment, isIn, offered⟩ := List.mem_flatMap.mp member
    cases segment with
    | text s =>
      obtain ⟨part, isPart, rfl⟩ := List.mem_map.mp offered
      exact List.mem_flatMap.mpr ⟨.text s, isIn, List.mem_map.mpr ⟨part, isPart, rfl⟩⟩
    | _ => cases offered
  | _ =>
    simp only [kind] at member
    cases member

end Node

end Stencil
