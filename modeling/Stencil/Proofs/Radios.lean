import Stencil.Proofs.Brackets.Cut
import Stencil.Proofs.Inputs
import Stencil.Proofs.Selects

/-!
# Radio fields

A radio field has a button for each filled bracket in a text of its body, and accepts the
filled brackets of the plain text. These are the same exactly if no bracket is cut.
-/
namespace Stencil

/-- The values of the inputs are what stands in the filled brackets of the texts. -/
private theorem Fragment.flatMap_inputValues (fragment : Fragment) :
    List.flatMap Segment.inputValues fragment
      = (fragment.inners.filter fun inner => !inner.isEmpty).map String.ofList := by
  induction fragment with
  | nil => rfl
  | cons segment rest ih =>
    rw [List.flatMap_cons, ih]
    cases segment with
    | text s =>
      rw [Segment.inputValues, radioValues_eq, inners, List.filter_append, List.map_append]
    | _ => rfl

/-- The values of the inputs are those of the plain text exactly if no bracket is cut. -/
private theorem Fragment.flatMap_inputValues_eq_iff (fragment : Fragment) :
    List.flatMap Segment.inputValues fragment = radioValues fragment.plainText.toList
      ↔ ¬fragment.CutsBracket := by
  rw [← filled_inners_eq_iff, flatMap_inputValues, radioValues_eq]
  exact (List.map_injective_iff.mpr fun _ _ => String.ofList_inj.mp).eq_iff

namespace Node

variable {node : Node}

private theorem inputValues_of_radio (radio : node.kind = .radio) :
    node.inputValues = node.body.flatMap Segment.inputValues := by
  rw [inputValues, radio]

/-- What a segment of the body leaves: a button for each value, or the segment itself. -/
theorem radioControls_eq (radio : node.kind = .radio) (segment : Segment) :
    radioControls node.head segment
      = segment.inputValues.map node.inputControl ++ segment.controls := by
  unfold inputControl
  rw [radio]
  cases segment with
  | text s =>
    rw [radioControls, Segment.inputValues, radioValues, Fragment.controls_text, List.append_nil,
      List.map_map]
    rfl
  | _ => rfl

/-- A radio field has a button for each value in a text of its body, in this order and with
what the tags in the body leave in between, and each button carries its value. These values
are those of the options it accepts exactly if no filled bracket is cut. -/
theorem inputValues_eq_options_iff (radio : node.kind = .radio) (messages : Messages) :
    Segment.controlsIn (node.render messages) = node.body.flatMap (fun segment =>
        segment.inputValues.map node.inputControl ++ segment.controls) ∧
      (∀ value ∈ node.inputValues,
        (node.render messages).HasInput value (node.inputControl value)) ∧
      ∃ validator options, node.validator? messages = .ok (some validator) ∧
        validator.rules.filterMap Rule.source? = [.fixed options] ∧
        (node.inputValues = options.map SelectOption.value ↔ ¬node.body.CutsBracket) := by
  refine ⟨?_, fun value => hasInput_render messages node, ?_⟩
  · rw [controlsIn_render, radio]
    exact congrArg node.body.flatMap (funext (radioControls_eq radio))
  · refine ⟨node.head.radioValidator node.radioSource, _, ?_, rfl, ?_⟩
    · rw [validator?, radio]
    · -- An option has the text in its bracket as title and as value.
      have values : ((radioValues node.body.plainText.toList).map fun value =>
          (⟨value, value⟩ : SelectOption)).map SelectOption.value
          = radioValues node.body.plainText.toList := by
        rw [List.map_map]
        exact List.map_id _
      rw [values, inputValues_of_radio radio]
      exact node.body.flatMap_inputValues_eq_iff

/-- A field with what another tag leaves between its brackets accepts what it offers. -/
theorem inputValues_eq_options_iff_whole :
    let node : Node := {
      head := ⟨"form", "radio", .ofList [("id", "r"), ("name", "r")], ⟨"page", 1, 1⟩⟩
      kind := .radio
      parent := none
      body := [.text "[1] <i>", .echo (.var ["note"]), .text "</i> [2]"] }
    node.inputValues = ["1", "2"] ∧
      ∃ validator options, node.validator? {} = .ok (some validator) ∧
        validator.rules.filterMap Rule.source? = [.fixed options] ∧
        options.map SelectOption.value = ["1", "2"] := by
  intro node
  have offered : node.inputValues = ["1", "2"] := by decide +kernel
  have outside : node.body.startsOutside false = true := by decide +kernel
  obtain ⟨-, -, validator, options, made, source, same⟩ :=
    inputValues_eq_options_iff (show node.kind = .radio from rfl) {}
  have accepted := same.mpr (Fragment.not_cutsBracket_of_startsOutside outside)
  exact ⟨offered, validator, options, made, source, accepted.symm.trans offered⟩

end Node

/-- A text field in an open bracket of a radio field: the view has a button for `z`, and the
form has the one option that reaches from the open bracket to the end of `[z]`. -/
theorem compileTemplate_radio_cut :
    ∃ compiled, compileTemplate ⟨.builtin, {}, "page"⟩
        ("<form:form id=\"f\"><form:radio id=\"r\">[x<form:text id=\"t\"/>y [z]" ++
          "</form:radio></form:form>") = .ok compiled ∧
      (Segment.controlsIn compiled.view.body).filterMap Segment.input? = [("r", "z")] ∧
      ∃ form validator, compiled.forms = [form] ∧ form.validators = [validator] ∧
        validator.name = "r" ∧ ∃ options,
          validator.rules.filterMap Rule.source? = [.fixed options] ∧
          options.map SelectOption.value
            = ["x<input id=\"t\" name=\"t\" type=\"text\" value=\"\">y [z"] := by
  let option := "x<input id=\"t\" name=\"t\" type=\"text\" value=\"\">y [z"
  -- The button is drawn from the text behind the field, the option from the text of all.
  have evaluated : ((compileTemplate ⟨.builtin, {}, "page"⟩
      ("<form:form id=\"f\"><form:radio id=\"r\">[x<form:text id=\"t\"/>y [z]" ++
        "</form:radio></form:form>")).toOption.any fun compiled : Compiled =>
      (Segment.controlsIn compiled.view.body).filterMap Segment.input? = [("r", "z")] ∧
      compiled.forms.map (fun form => form.validators.map FieldValidator.name) = [["r"]] ∧
      ∀ form ∈ compiled.forms, ∀ validator ∈ form.validators,
        validator.rules.filterMap Rule.source? = [.fixed [⟨option, option⟩]]) = true := by
    rw [compileTemplate, String.toList_append, String.toList_ofList, String.toList_ofList]
    decide +kernel
  obtain ⟨compiled, compiles, shown, names, sources⟩ := exists_of_any evaluated
  obtain ⟨form, forms, names⟩ := List.map_eq_singleton_iff.mp names
  obtain ⟨validator, validators, name⟩ := List.map_eq_singleton_iff.mp names
  refine ⟨compiled, compiles, shown, form, validator, forms, validators, name, _,
    sources form ?_ validator ?_, rfl⟩
  · rw [forms]
    exact List.mem_singleton_self form
  · rw [validators]
    exact List.mem_singleton_self validator

end Stencil
