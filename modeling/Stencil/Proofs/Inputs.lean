import Stencil.Proofs.Inputs.Shown
import Stencil.Proofs.Submission
import Stencil.Proofs.Text.Cleansing

/-!
# Radio fields and checkboxes

The inputs of these fields carry values. A field accepts what its inputs carry, as long as
nothing of it is lost when a submitted value is cleansed.
-/
namespace Stencil

/-! ### Cleansing -/

namespace Head

variable {head : Head} {value : String}

/-- That nothing of a value is lost when it is cleansed. -/
structure Keeps (head : Head) (value : String) : Prop where
  markup : head.flag "x:nohtml" true → '<' ∉ value.toList
  removed : ∀ chars, head.attr? "x:remove" = some chars → ∀ c ∈ value.toList, c ∉ chars.toList

/-- A value of which nothing is lost is validated as it was submitted. -/
theorem prepared_of_keeps (keeps : head.Keeps value) {validator : FieldValidator}
    (cleanses : validator.initializers
      = [.getValue, .ensureString] ++ head.markupInitializers ++ head.removeInitializers)
    (request : Request) :
    validator.prepared request (some (.string value))
      = { value := .string value, stored := some (.string value) } := by
  let state : FieldState := { value := .string value, stored := some (.string value) }
  -- A change that leaves the text alone leaves the field alone.
  have unchanged {change : List Char → List Char} (same : change value.toList = value.toList) :
      state.changeText change = state := by
    simp [state, FieldState.changeText, FieldState.text, FieldState.replace, same]
  have markup : head.markupInitializers.foldl (Initializer.apply request validator.name) state
      = state := by
    unfold markupInitializers
    split
    · next strips => exact unchanged (Text.stripMarkup_eq_self (keeps.markup strips))
    · rfl
  have removed : head.removeInitializers.foldl (Initializer.apply request validator.name) state
      = state := by
    unfold removeInitializers
    split
    · next chars given =>
      refine unchanged (List.filter_eq_self.mpr ?_)
      intro c member
      simpa using keeps.removed chars given c member
    · rfl
  unfold FieldValidator.prepared
  rw [cleanses, List.foldl_append, List.foldl_append]
  change head.removeInitializers.foldl _ (head.markupInitializers.foldl _ state) = state
  rw [markup, removed]

/-- A checkbox accepts the value of its input. -/
theorem run_checkboxValidator (keeps : head.Keeps (head.attrD "x:on" ""))
    (surroundings : Surroundings) :
    head.checkboxValidator.run surroundings ⟨some (.string (head.attrD "x:on" "")), none⟩
      = ⟨some (.string (head.attrD "x:on" "")), none⟩ := by
  unfold FieldValidator.run
  rw [prepared_of_keeps keeps rfl]
  simp [checkboxValidator, firstVerdict, Rule.check, FieldState.text]

/-- A radio field accepts its options. -/
theorem run_radioValidator (keeps : head.Keeps value) (present : value ≠ "")
    {source : OptionSource} {surroundings : Surroundings}
    (offered : source.contains surroundings.request value) :
    (head.radioValidator source).run surroundings ⟨some (.string value), none⟩
      = ⟨some (.string value), none⟩ := by
  unfold FieldValidator.run
  rw [prepared_of_keeps keeps rfl]
  simp [radioValidator, firstVerdict, requiredRule, Rule.check, isEmptyValue, present,
    FieldState.text, offered, Verdict.failedIf]

end Head

/-! ### Forms -/

/-- That a form finds no fault with a text submitted for a field, and leaves it as it is. -/
def Form.Accepts (form : Form) (name value : String) : Prop :=
  ∀ request initial, request.params.get? name = some (.string value) →
    (Submission.new form request initial).validate.error? name = none ∧
      (Submission.new form request initial).validate.get? name = some (.string value)

section

variable {messages : Messages} {trees : List Tree} {form : Form} {tag : Node}
  {validator : FieldValidator} {value : String}

/-- A form accepts anything for a field it does not know. -/
theorem Form.accepts_of_not_mem {name : String}
    (unknown : name ∉ form.validators.map FieldValidator.name) : form.Accepts name value := by
  intro request initial submitted
  have kept : (Submission.new form request initial).validate.record name = _ :=
    Submission.record_foldl_of_not_mem unknown
  rw [Submission.record_new submitted] at kept
  exact ⟨congrArg FieldRecord.error kept, congrArg FieldRecord.value kept⟩

/-- A radio field or a checkbox accepts the value of an input. -/
theorem Form.Validates.accepts (validates : form.Validates messages trees tag validator)
    (distinct : form.fields.Nodup) (offered : value ∈ tag.inputValues)
    (keeps : tag.head.Keeps value) (outside : tag.kind = .radio → tag.body.startsOutside false) :
    form.Accepts tag.head.fieldName value := by
  intro request initial submitted
  have after := validates.record_of_submitted distinct submitted initial
  have kept : validator.run (Submission.new form request initial).surroundings
      ⟨some (.string value), none⟩ = ⟨some (.string value), none⟩ := by
    have made := validates.made
    unfold Node.validator? at made
    unfold Node.inputValues at offered
    cases kind : tag.kind with
    | checkbox =>
      simp only [kind] at made offered
      cases made
      obtain rfl := List.mem_singleton.mp offered
      exact Head.run_checkboxValidator keeps _
    | radio =>
      simp only [kind] at made offered
      cases made
      obtain ⟨segment, member, offered⟩ := List.mem_flatMap.mp offered
      cases segment with
      | text s =>
        -- The options are read off the plain text, the inputs off each text for itself.
        have listed : value ∈ radioValues tag.body.plainText.toList :=
          @Fragment.mem_radioValues_plainText _ [] _ _ (outside kind) member offered
        refine Head.run_radioValidator keeps (ne_empty_of_mem_radioValues listed) ?_
        simpa [Node.radioSource, OptionSource.contains, OptionSource.resolve] using listed
      | _ => cases offered
    | _ =>
      simp only [kind] at offered
      cases offered
  rw [kept] at after
  exact ⟨congrArg FieldRecord.error after, congrArg FieldRecord.value after⟩

end

/-- In the body of a tag no two texts stand side by side. -/
theorem Forest.separated_of_grow {setting : Setting} {forest : Forest} {site : Site}
    (grown : forest.grow setting {} = .ok site) {entry : Entry}
    (member : entry ∈ Tree.entriesIn [] site.trees) : entry.tag.body.Separated := by
  -- The body at a place becomes the body of a tag when that is closed.
  let apart (site : Site) : Prop := site.body.Separated ∧
    ∀ entry ∈ Tree.entriesIn [] site.trees, entry.tag.body.Separated
  have kept : apart site := by
    refine Forest.grow_invariant ?_ ?_ ?_ grown ⟨List.isChain_nil, nofun⟩
    · intro site text before
      exact ⟨Fragment.separated_pushText _ before.1, before.2⟩
    · intro site around occurrence tag opened before
      obtain ⟨_, _, _, _, _, _, _, form, _, _, rfl⟩ := Site.openTag_eq_ok opened
      exact before
    · intro site around within occurrence tag _ _ inside before
      obtain ⟨body, entries⟩ := inside ⟨List.isChain_nil, nofun⟩
      refine ⟨Fragment.separated_append before.1 _, ?_⟩
      intro entry member
      have member : entry ∈ Tree.entriesIn [] (around.trees ++ [within.closed tag]) := member
      rw [Tree.entriesIn_append, Tree.entriesIn_singleton] at member
      rcases List.mem_append.mp member with earlier | here
      · exact before.2 entry earlier
      · rcases Tree.mem_entries.mp here with rfl | ⟨inner, later, rfl⟩
        · obtain ⟨kind, closed, -⟩ := within.closed_tag tag
          rw [closed]
          exact body
        · exact entries inner later
  exact kept.2 entry member

/-- A radio field or a checkbox accepts what its inputs carry. Every input of a view was left by
a tag for one of its values. A tag leaves an input for each of them, with the value escaped
before its control. If the tag is in no other value tag the view shows the control and a form
has the field, and it shows the input as it was left, unless something of the value may be taken
for a placeholder or for the end of an error template. A form that has the field finds no fault
with a value the view shows, and leaves it as it is, if its fields have distinct names, nothing
of the value is lost in cleansing and no text of a radio field starts in a bracket. With no
dynamic segment in the body none does. A form that has no field of that name accepts anything
for it. -/
theorem compileTemplate_inputs {setting : Setting} {text : String} {compiled : Compiled}
    (compiles : compileTemplate setting text = .ok compiled) :
    ∃ site, compiled.GrownFrom setting text site ∧
      (∀ control ∈ Segment.controlsIn compiled.view.body, ∀ name value,
        control.input? = some (name, value) →
          ∃ entry ∈ Tree.entriesIn [] site.trees, value ∈ entry.tag.inputValues ∧
            control = entry.tag.inputControl value ∧ name = entry.tag.head.fieldName) ∧
      ∀ entry ∈ Tree.entriesIn [] site.trees, ∀ value ∈ entry.tag.inputValues,
        (entry.tag.render setting.config.messages).HasInput value (entry.tag.inputControl value) ∧
        (entry.isListed →
          entry.tag.inputControl value ∈ Segment.controlsIn compiled.view.body ∧
          ('}' ∉ value.toList → entry.EndsNoTemplate value →
            compiled.view.body.Shows value (entry.tag.inputControl value)) ∧
          ∃ form ∈ compiled.forms, ∃ validator,
            form.Validates setting.config.messages site.trees entry.tag validator) ∧
        ((∀ segment ∈ entry.tag.body, ∃ s, segment = .text s) →
          entry.tag.body.startsOutside false) ∧
        (compiled.view.body.Shows value (entry.tag.inputControl value) →
          ∀ form ∈ compiled.forms,
            ((form.fields.Nodup ∧
                (∃ validator,
                  form.Validates setting.config.messages site.trees entry.tag validator) ∧
                entry.tag.head.Keeps value ∧
                (entry.tag.kind = .radio → entry.tag.body.startsOutside false)) ∨
              entry.tag.head.fieldName ∉ form.fields) →
            form.Accepts entry.tag.head.fieldName value) := by
  obtain ⟨site, grown, formed⟩ := compileTemplate_grows compiles
  have defined : List.Forall₂ (fun form tree => form.DefinedBy setting.config.messages tree)
      compiled.forms (Tree.formsIn site.trees) := (definedBy_of_grown grown formed).flip
  refine ⟨site, grown, fun control member name value marks => grown.exists_of_input member marks, ?_⟩
  intro entry member value offered
  refine ⟨Node.hasInput_render _ entry.tag offered, ?_, ?_, ?_⟩
  · -- A tag in no other value tag is shown, and belongs to a form.
    intro listed
    have field := Node.validates_of_mem_inputValues offered
    obtain ⟨form, output, validator, validates⟩ :=
      exists_validates_of_listed grown formed member listed field
    have shown := Entry.leaves_of_isListed listed field (entry.tag.field?_inputControl value)
      (Node.inputControl_mem_controls setting.config.messages offered)
    exact ⟨(grown.mem_controls _).mpr ⟨entry, member, shown⟩,
      grown.shows member listed offered, form, output, validator, validates⟩
  · obtain ⟨forest, -, -, grows⟩ := grown.forest
    exact Fragment.startsOutside_of_static (Forest.separated_of_grow grows member)
  · rintro - form output (⟨distinct, ⟨validator, validates⟩, keeps, outside⟩ | unknown)
    · exact validates.accepts distinct offered keeps outside
    · obtain ⟨tree, -, here⟩ := exists_of_forall₂ defined output
      refine Form.accepts_of_not_mem ?_
      rwa [← here.names]

/-- A radio field with the one button `1` shows it, and accepts what it carries. -/
theorem compileTemplate_inputs_page :
    let setting : Setting := ⟨.builtin, {}, "page"⟩
    let text := "<form:form id=\"f\"><form:radio id=\"r\">[1]</form:radio></form:form>"
    ∃ compiled, compileTemplate setting text = .ok compiled ∧
      (∃ control, control.input? = some ("r", "1") ∧ compiled.view.body.Shows "1" control) ∧
      ∃ form ∈ compiled.forms, form.Accepts "r" "1" := by
  intro setting text
  let formOpens : Markup.Occurrence :=
    ⟨false, false, "form", "form", "id=\"f\"".toList, ⟨0, 1, 1⟩, ⟨18, 1, 19⟩⟩
  let opens : Markup.Occurrence :=
    ⟨false, false, "form", "radio", "id=\"r\"".toList, ⟨18, 1, 19⟩, ⟨37, 1, 38⟩⟩
  let closes : Markup.Occurrence := ⟨true, false, "form", "radio", [], ⟨40, 1, 41⟩, ⟨53, 1, 54⟩⟩
  let formCloses : Markup.Occurrence := ⟨true, false, "form", "form", [], ⟨53, 1, 54⟩, ⟨65, 1, 66⟩⟩
  let forest : Forest :=
    .element [] formOpens (.element [] opens (.text "[1]".toList) closes (.text [])) formCloses
      (.text [])
  have proper : forest.Proper := by
    simp [forest, formOpens, opens, closes, formCloses, Forest.Proper]
  have scanned : forest.scan = Markup.scan setting.registry.namespaces text.toList := by
    rw [String.toList_ofList]
    decide +kernel
  have distinct : ((compileTemplate setting text).toOption.any fun compiled : Compiled =>
      ∀ form ∈ compiled.forms, form.fields.Nodup) = true := by
    rw [compileTemplate, String.toList_ofList]
    decide +kernel
  have entries : ((forest.grow setting {}).toOption.any fun site : Site =>
      ∃ entry ∈ Tree.entriesIn [] site.trees,
        entry.isListed ∧ "1" ∈ entry.tag.inputValues ∧ entry.tag.head.fieldName = "r" ∧
          entry.tag.head.attr? "x:remove" = none ∧ entry.tag.body.startsOutside false) = true := by
    decide +kernel
  obtain ⟨compiled, compiles, distinct⟩ := exists_of_any distinct
  obtain ⟨site, grows, entry, member, listed, offered, name, whole, outside⟩ :=
    exists_of_any entries
  obtain ⟨other, grown, -, inputs⟩ := compileTemplate_inputs compiles
  obtain rfl : other = site :=
    Except.ok.inj ((grown.grow_eq proper scanned).symm.trans grows)
  obtain ⟨-, known, -, accepts⟩ := inputs entry member "1" offered
  obtain ⟨-, shows, form, output, validated⟩ := known listed
  have shown := shows (by decide) fun _ _ _ => by decide
  have keeps : entry.tag.head.Keeps "1" := by
    constructor
    · intro _
      decide
    · intro chars given
      rw [whole] at given
      cases given
  have accepted := accepts shown form output
    (.inl ⟨distinct form output, validated, keeps, fun _ => outside⟩)
  exact ⟨compiled, compiles, ⟨_, name ▸ entry.tag.input?_inputControl "1", shown⟩, form, output,
    name ▸ accepted⟩

/-- That a form of a page does not accept the value an input of the page carries. -/
def RejectsInput (setting : Setting) (text name value : String) : Prop :=
  ∃ compiled, compileTemplate setting text = .ok compiled ∧
    (∃ control, control.input?.map Prod.fst = some name ∧
      compiled.view.body.Shows value control) ∧
    ∃ form ∈ compiled.forms, form.fields = [name] ∧ ¬form.Accepts name value

/-- One request with an error is enough. -/
theorem rejectsInput_of_error {setting : Setting} {text name value : String} {request : Request}
    (submitted : request.params.get? name = some (.string value))
    (evaluated : ((compileTemplate setting text).toOption.any fun compiled : Compiled =>
      (∃ pair ∈ compiled.view.body.zip compiled.view.body.tail, pair.1.carries value ∧
        pair.2.input?.map Prod.fst = some name) ∧
      ∃ form ∈ compiled.forms, form.fields = [name] ∧
        (Submission.new form request .empty).validate.error? name ≠ none) = true) :
    RejectsInput setting text name value := by
  obtain ⟨compiled, compiles, shown, form, output, single, rejected⟩ := exists_of_any evaluated
  refine ⟨compiled, compiles, Fragment.exists_shows shown, form, output, single, ?_⟩
  intro accepts
  exact rejected (accepts request .empty submitted).1

/-- A form rejects what a radio field offers if a character of it is removed, if it looks
like markup, if it stands behind a bracket that another field is in, or if it is what has
become of a placeholder. It rejects what a checkbox in a radio field of the same name offers. -/
theorem compileTemplate_inputs_rejected :
    RejectsInput ⟨.builtin, {}, "page"⟩
        "<form:form id=\"f\"><form:radio id=\"r\" x:remove=\"b\">[ab]</form:radio></form:form>"
        "r" "ab" ∧
      RejectsInput ⟨.builtin, {}, "page"⟩
        "<form:form id=\"f\"><form:radio id=\"r\">[a<b]</form:radio></form:form>" "r" "a<b" ∧
      RejectsInput ⟨.builtin, {}, "page"⟩
        ("<form:form id=\"f\"><form:radio id=\"r\">[x<form:text id=\"t\"/>y [z]" ++
          "</form:radio></form:form>") "r" "z" ∧
      RejectsInput ⟨.builtin, { constants := .ofList [("NAME", "foo")] }, "page"⟩
        "<form:form id=\"f\"><form:radio id=\"r\">[\x7bNAME\x7d]</form:radio></form:form>"
        "r" "foo" ∧
      RejectsInput ⟨.builtin, {}, "page"⟩
        ("<form:form id=\"f\"><form:radio id=\"q\" name=\"r\">[a]" ++
          "<form:checkbox id=\"c\" name=\"r\" x:on=\"z\" x:off=\"n\"/></form:radio></form:form>")
        "r" "z" := by
  let post (value : String) : Request :=
    { method := .post, params := .ofList [("r", .string value)] }
  have submitted (value : String) : (post value).params.get? "r" = some (.string value) := rfl
  refine ⟨rejectsInput_of_error (submitted "ab") ?_, rejectsInput_of_error (submitted "a<b") ?_,
    rejectsInput_of_error (submitted "z") ?_, rejectsInput_of_error (submitted "foo") ?_,
    rejectsInput_of_error (submitted "z") ?_⟩
  · rw [compileTemplate, String.toList_ofList]
    decide +kernel
  · rw [compileTemplate, String.toList_ofList]
    decide +kernel
  · rw [compileTemplate, String.toList_append, String.toList_ofList, String.toList_ofList]
    decide +kernel
  · rw [compileTemplate, String.toList_ofList]
    decide +kernel
  · rw [compileTemplate, String.toList_append, String.toList_ofList, String.toList_ofList]
    decide +kernel

end Stencil
