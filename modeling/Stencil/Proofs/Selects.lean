import Stencil.Proofs.Controls
import Stencil.Proofs.Submission

/-!
# Select fields

A select field takes its options from one source, when it is shown as well as when it is
validated. It accepts what it offers, and nothing else.
-/
namespace Stencil

/-- The options a rule compares a value to. -/
def Rule.source? : Rule → Option OptionSource
  | .inOptions source _ | .allInOptions source _ => some source
  | _ => none

/-- Where a segment takes its options from. -/
def Segment.source? : Segment → Option OptionSource
  | .options _ source _ _ => some source
  | _ => none

/-- What is submitted for a select field: a text, or a list of texts if the field is for
several options. Nothing at all is no choice. -/
inductive Request.Submits (request : Request) (name : String) : Bool → List String → Prop where
  | one {value : String} : value ≠ "" → request.params.get? name = some (.string value) →
      Submits request name false [value]
  | many {values : List String} : values ≠ [] →
      request.params.get? name = some (.array (values.map .string)) →
      Submits request name true values

/-- The options marked are those submitted. -/
theorem View.selectedValues_of_submits {request : Request} {name : String} {multiple : Bool}
    {chosen : List String} (submits : request.Submits name multiple chosen)
    (fallback : Option String) : selectedValues request name fallback multiple = chosen := by
  cases submits with
  | one _ submitted => simp [selectedValues, fieldValue, submitted]
  | many _ submitted =>
    have texts : (chosen.map Value.string).map Value.text = chosen := by
      rw [List.map_map]
      exact List.map_id chosen
    simp [selectedValues, submitted, texts]

/-- That a value is no option. -/
def OptionSource.Refuses (source : OptionSource) (request : Request) (value : String) : Prop :=
  ∀ option ∈ source.resolve request, option.value ≠ value

private theorem OptionSource.contains_eq_false {source : OptionSource} {request : Request}
    {value : String} : source.contains request value = false ↔ source.Refuses request value := by
  simp [contains, Refuses]

namespace Head

variable {head : Head} {source : OptionSource} {surroundings : Surroundings}

/-- A field for one option fails if its value is none. -/
theorem run_selectValidator {value : String} (plain : head.attr? "x:remove" = none)
    (present : value ≠ "") :
    ((head.selectValidator source).run surroundings ⟨some (.string value), none⟩).error.isSome
      ↔ source.Refuses surroundings.request value := by
  have prepared : (head.selectValidator source).prepared surroundings.request
      (some (.string value)) = { value := .string value, stored := some (.string value) } := by
    simp [selectValidator, FieldValidator.prepared, removeInitializers, plain, Initializer.apply]
  rw [← OptionSource.contains_eq_false]
  unfold FieldValidator.run
  rw [prepared]
  cases contained : source.contains surroundings.request value with
  | true =>
    simp [selectValidator, firstVerdict, requiredRule, Rule.check, isEmptyValue, present,
      FieldState.text, contained, Verdict.failedIf]
  | false =>
    simp [selectValidator, firstVerdict, requiredRule, Rule.check, isEmptyValue, present,
      FieldState.text, contained, Verdict.failedIf]

/-- A field for several options fails if it is required and one of its values is none. -/
theorem run_multiSelectValidator {values : List String} (present : values ≠ []) :
    ((head.multiSelectValidator source).run surroundings
        ⟨some (.array (values.map .string)), none⟩).error.isSome
      ↔ head.flag "x:required" true ∧
        ∃ value ∈ values, source.Refuses surroundings.request value := by
  have prepared : (head.multiSelectValidator source).prepared surroundings.request
      (some (.array (values.map .string)))
      = { value := .array (values.map .string), stored := some (.array (values.map .string)) } := by
    simp [multiSelectValidator, FieldValidator.prepared, Initializer.apply]
  -- Each of the values is looked up in the options.
  have refused : ((values.map Value.string).all
      (isOption (source.resolve surroundings.request)) = false) ↔
      ∃ value ∈ values, source.Refuses surroundings.request value := by
    simp [isOption, OptionSource.Refuses]
  rw [← refused]
  unfold FieldValidator.run
  rw [prepared]
  cases demanded : head.flag "x:required" true with
  | false =>
    simp [multiSelectValidator, demanded, firstVerdict, requiredRule, Rule.check, isEmptyValue,
      present]
  | true =>
    cases accepted : (values.map Value.string).all
        (isOption (source.resolve surroundings.request)) <;>
      simp [multiSelectValidator, demanded, firstVerdict, requiredRule, Rule.check, isEmptyValue,
        present, accepted, Verdict.failedIf]

end Head

/-! ### Select fields in templates -/

/-- Whether a select field is for several options. -/
def TagKind.multiple? : TagKind → Option Bool
  | .select multiple => some multiple
  | _ => none

private theorem TagKind.multiple?_eq_some {kind : TagKind} {multiple : Bool} :
    kind.multiple? = some multiple ↔ kind = .select multiple := by
  cases kind <;> simp [multiple?]

/-- The segment a select field leaves. -/
def Node.optionsSegment (node : Node) (multiple : Bool) : Segment :=
  .options node.head.fieldName node.selectSource (node.head.attr? "x:default") multiple

/-- The options of a field are written in order, and those submitted are marked. -/
theorem View.renderSegment_optionsSegment {context : Context} {node : Node} {multiple : Bool}
    {chosen : List String} (submits : context.request.Submits node.head.fieldName multiple chosen)
    (locals : Dict Value) :
    (renderSegment context locals (node.optionsSegment multiple)).1
      = String.join ((node.selectSource.resolve context.request).map (optionElement chosen)) := by
  rw [Node.optionsSegment, renderSegment, selectedValues_of_submits submits]

section

variable {messages : Messages} {trees : List Tree} {form : Form} {tag : Node}
  {validator : FieldValidator} {multiple : Bool}

/-- The validator of a select field. -/
theorem Node.validator?_of_select (kind : tag.kind = .select multiple) :
    tag.validator? messages = .ok (some (if multiple then
      tag.head.multiSelectValidator tag.selectSource
    else tag.head.selectValidator tag.selectSource)) := by
  unfold validator?
  rw [kind]
  cases multiple <;> rfl

/-- The rule on the options takes these from where the view does. -/
theorem Form.Validates.sources_of_select (validates : form.Validates messages trees tag validator)
    (kind : tag.kind = .select multiple) :
    validator.rules.filterMap Rule.source? =
      if multiple ∧ tag.head.flag "x:required" true = false then [] else [tag.selectSource] := by
  have made := validates.made
  rw [Node.validator?_of_select kind] at made
  cases multiple with
  | false =>
    cases made
    rfl
  | true =>
    cases made
    cases demanded : tag.head.flag "x:required" true <;>
      simp [Head.multiSelectValidator, demanded, Rule.source?, Head.requiredRule, List.filterMap]

/-- A select field has an error if one of the values submitted is none of its options. -/
theorem Form.Validates.error_of_select (validates : form.Validates messages trees tag validator)
    (kind : tag.kind = .select multiple) (distinct : form.fields.Nodup)
    (plain : tag.head.attr? "x:remove" = none) {request : Request} {chosen : List String}
    (submits : request.Submits tag.head.fieldName multiple chosen) (initial : Dict Value) :
    ((Submission.new form request initial).validate.error? tag.head.fieldName).isSome ↔
      (multiple → tag.head.flag "x:required" true) ∧
        ∃ value ∈ chosen, tag.selectSource.Refuses request value := by
  have made := validates.made
  rw [Node.validator?_of_select kind] at made
  -- With distinct names the error is what the validator of the field says.
  have afterwards (value : Value)
      (submitted : request.params.get? tag.head.fieldName = some value) :
      (Submission.new form request initial).validate.error? tag.head.fieldName
        = (validator.run (Submission.new form request initial).surroundings
            ⟨some value, none⟩).error :=
    congrArg FieldRecord.error (validates.record_of_submitted distinct submitted initial)
  cases submits with
  | one present submitted =>
    obtain rfl : tag.head.selectValidator tag.selectSource = validator :=
      Option.some.inj (Except.ok.inj made)
    rw [afterwards _ submitted, Head.run_selectValidator plain present]
    simp
  | many present submitted =>
    obtain rfl : tag.head.multiSelectValidator tag.selectSource = validator :=
      Option.some.inj (Except.ok.inj made)
    rw [afterwards _ submitted, Head.run_multiSelectValidator present]
    simp

end

/-- A select field in no other value tag offers what it accepts. The view writes the options
of its source and marks those submitted, the rule on the options has the same source, and
the field has an error if some value submitted is none of them. A field for several
options has no such rule if it is not required. -/
theorem compileTemplate_selects {setting : Setting} {text : String} {compiled : Compiled}
    (compiles : compileTemplate setting text = .ok compiled) :
    ∃ site, compiled.GrownFrom setting text site ∧
      ∀ entry ∈ Tree.entriesIn [] site.trees, entry.isListed →
      ∀ multiple, entry.tag.kind = .select multiple →
        entry.tag.optionsSegment multiple ∈ Segment.controlsIn compiled.view.body ∧
        ∃ form ∈ compiled.forms, ∃ validator,
          form.Validates setting.config.messages site.trees entry.tag validator ∧
          validator.rules.filterMap Rule.source? =
            (if multiple ∧ entry.tag.head.attr? "x:required" ≠ some "1" then []
            else [entry.tag.selectSource]) ∧
          ∀ request chosen, request.Submits entry.tag.head.fieldName multiple chosen →
            (∀ errors locals, (View.renderSegment ⟨request, errors⟩ locals
                (entry.tag.optionsSegment multiple)).1
              = String.join ((entry.tag.selectSource.resolve request).map
                  (View.optionElement chosen))) ∧
            (form.fields.Nodup → entry.tag.head.attr? "x:remove" = none → ∀ initial,
              (((Submission.new form request initial).validate.error?
                  entry.tag.head.fieldName).isSome ↔
                (multiple → entry.tag.head.attr? "x:required" = some "1") ∧
                  ∃ value ∈ chosen, entry.tag.selectSource.Refuses request value)) := by
  obtain ⟨site, grown, formed⟩ := compileTemplate_grows compiles
  refine ⟨site, grown, ?_⟩
  intro entry member listed multiple kind
  have field : entry.tag.kind.validates := by rw [kind]; rfl
  obtain ⟨form, output, validator, validates⟩ :=
    exists_validates_of_listed grown formed member listed field
  -- Initialization sets `x:required` where it was not written.
  have required : entry.tag.head.flag "x:required" true ↔
      entry.tag.head.attr? "x:required" = some "1" := by
    obtain ⟨forest, -, -, grows⟩ := grown.forest
    have given := (Forest.complete_of_grow grows entry member).required field
    obtain ⟨written, given⟩ := Option.isSome_iff_exists.mp given
    simp [Head.flag, given]
  have sources := validates.sources_of_select kind
  have shown : entry.Leaves setting.config.messages (entry.tag.optionsSegment multiple) := by
    refine Entry.leaves_of_isListed listed field rfl ?_
    rw [Node.controlsIn_render, kind]
    exact List.mem_singleton_self _
  refine ⟨(grown.mem_controls _).mpr ⟨entry, member, shown⟩, form, output, validator, validates,
    ?_, ?_⟩
  · rw [sources]
    simp only [← required, ne_eq, Bool.not_eq_true]
  · intro request chosen submits
    constructor
    · intro errors locals
      exact View.renderSegment_optionsSegment submits locals
    · intro distinct plain initial
      rw [← required]
      exact validates.error_of_select kind distinct plain submits initial

/-- A field with the options `1` and `2` marks the second when it is submitted, and takes no
`3`. -/
theorem compileTemplate_selects_page :
    let setting : Setting := ⟨.builtin, {}, "page"⟩
    let text := "<form:form id=\"f\"><form:select id=\"s\">[A,1][B,2]</form:select></form:form>"
    ∃ compiled, compileTemplate setting text = .ok compiled ∧
      (∃ control ∈ Segment.controlsIn compiled.view.body, ∀ request,
        request.params.get? "s" = some (.string "2") → ∀ errors locals,
        (View.renderSegment ⟨request, errors⟩ locals control).1 =
          "<option value=\"1\">A</option>\n" ++
          "<option value=\"2\" selected=\"selected\">B</option>\n") ∧
      ∃ form ∈ compiled.forms, ∀ request, request.params.get? "s" = some (.string "3") →
        ∀ initial, ((Submission.new form request initial).validate.error? "s").isSome := by
  intro setting text
  let formOpens : Markup.Occurrence :=
    ⟨false, false, "form", "form", "id=\"f\"".toList, ⟨0, 1, 1⟩, ⟨18, 1, 19⟩⟩
  let opens : Markup.Occurrence :=
    ⟨false, false, "form", "select", "id=\"s\"".toList, ⟨18, 1, 19⟩, ⟨38, 1, 39⟩⟩
  let closes : Markup.Occurrence := ⟨true, false, "form", "select", [], ⟨48, 1, 49⟩, ⟨62, 1, 63⟩⟩
  let formCloses : Markup.Occurrence := ⟨true, false, "form", "form", [], ⟨62, 1, 63⟩, ⟨74, 1, 75⟩⟩
  let forest : Forest :=
    .element [] formOpens (.element [] opens (.text "[A,1][B,2]".toList) closes (.text []))
      formCloses (.text [])
  have proper : forest.Proper := by
    simp [forest, formOpens, opens, closes, formCloses, Forest.Proper]
  have scanned : forest.scan = Markup.scan setting.registry.namespaces text.toList := by
    rw [String.toList_ofList]
    decide +kernel
  have distinct : ((compileTemplate setting text).toOption.any fun compiled : Compiled =>
      ∀ form ∈ compiled.forms, form.fields.Nodup) = true := by
    rw [compileTemplate, String.toList_ofList]
    decide +kernel
  have entries : ((forest.grow setting {}).toOption.any fun site : Site =>
      ∃ entry ∈ Tree.entriesIn [] site.trees,
        entry.isListed ∧ entry.tag.kind.multiple? = some false ∧
          entry.tag.head.fieldName = "s" ∧
          entry.tag.selectSource = .fixed [⟨"A", "1"⟩, ⟨"B", "2"⟩] ∧
          entry.tag.head.attr? "x:remove" = none) = true := by decide +kernel
  obtain ⟨compiled, compiles, distinct⟩ := exists_of_any distinct
  obtain ⟨site, grows, entry, member, listed, kind, name, source, plain⟩ := exists_of_any entries
  obtain ⟨other, grown, selects⟩ := compileTemplate_selects compiles
  obtain rfl : other = site :=
    Except.ok.inj ((grown.grow_eq proper scanned).symm.trans grows)
  obtain ⟨shown, form, output, _, -, -, submitted⟩ :=
    selects entry member listed false (TagKind.multiple?_eq_some.mp kind)
  rw [name, source] at submitted
  refine ⟨compiled, compiles, ⟨_, shown, ?_⟩, form, output, ?_⟩
  · intro request second errors locals
    rw [(submitted request ["2"] (.one (by decide) second)).1 errors locals,
      OptionSource.resolve]
    decide +kernel
  · intro request third initial
    have errs := (submitted request ["3"] (.one (by decide) third)).2 (distinct form output) plain
      initial
    refine errs.mpr ⟨nofun, "3", ?_⟩
    simp [OptionSource.Refuses, OptionSource.resolve]

/-- A form knows nothing of a select field in a radio field, whose value is not looked at. -/
theorem compileTemplate_selects_unvalidated :
    let text := "<form:form id=\"f\"><form:radio id=\"r\" x:required=\"0\">" ++
      "<form:select id=\"s\">[A,1]</form:select></form:radio></form:form>"
    let request : Request := { method := .post, params := .ofList [("s", .string "2")] }
    ∃ compiled, compileTemplate ⟨.builtin, {}, "page"⟩ text = .ok compiled ∧
      request.Submits "s" false ["2"] ∧
      (∃ control ∈ Segment.controlsIn compiled.view.body, control.field? = some "s" ∧
        ∃ source, control.source? = some source ∧ source.Refuses request "2") ∧
      compiled.forms.map Form.fields = [["r"]] ∧
      ∀ form ∈ compiled.forms, (Submission.new form request .empty).validate.error? "s" = none := by
  intro text request
  have evaluated : ((compileTemplate ⟨.builtin, {}, "page"⟩ text).toOption.any
      fun compiled : Compiled =>
      (∃ control ∈ Segment.controlsIn compiled.view.body, control.field? = some "s" ∧
        control.source? = some (.fixed [⟨"A", "1"⟩])) ∧
      compiled.forms.map Form.fields = [["r"]] ∧
      ∀ form ∈ compiled.forms,
        (Submission.new form request .empty).validate.error? "s" = none) = true := by
    rw [compileTemplate, String.toList_append, String.toList_ofList, String.toList_ofList]
    decide +kernel
  obtain ⟨compiled, compiles, ⟨control, shown, name, source⟩, fields, accepted⟩ :=
    exists_of_any evaluated
  refine ⟨compiled, compiles, .one (by decide) rfl, ⟨control, shown, name, _, source, ?_⟩, fields,
    accepted⟩
  simp [OptionSource.Refuses, OptionSource.resolve]

end Stencil
