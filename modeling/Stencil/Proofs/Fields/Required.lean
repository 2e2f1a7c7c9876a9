import Stencil.Proofs.Fields.Written

/-!
# Required fields

A field that is left empty is an error if it is required and its group, if it has one,
holds. Whether it is required is written in its tag, or else in the tag of its form. An
upload in a group is required whenever the group holds, and a checkbox never is.
-/
namespace Stencil

/-! ### Rules -/

section

variable {surroundings : Surroundings} {validator : FieldValidator} {value : Option Value}
  {demanded : Bool} {group : Option String} {message : String} {rest : List Rule}

/-- A rule that settles on an empty value ends the chain. -/
theorem FieldValidator.error_run_of_missing {rule : Rule} (rules : validator.rules = rule :: rest)
    (missed : rule.check surroundings (validator.prepared surroundings.request value)
      = missing surroundings demanded group message) :
    (validator.run surroundings ⟨value, none⟩).error =
      if demanded && group.all surroundings.groupHolds then some message else none := by
  unfold run
  dsimp only
  rw [rules, firstVerdict_cons, missed, missing]
  cases demanded && group.all surroundings.groupHolds with
  | true => rfl
  | false => rfl

/-- Nothing but the rule on empty values looks at an empty value. -/
theorem FieldValidator.error_run_of_empty
    (rules : validator.rules = .required demanded group message :: rest)
    (left : isEmptyValue (validator.prepared surroundings.request value).value) :
    (validator.run surroundings ⟨value, none⟩).error =
      if demanded && group.all surroundings.groupHolds then some message else none := by
  refine error_run_of_missing rules ?_
  rw [Rule.check, if_pos left]

/-- Nothing but the rule on missing uploads looks at a missing upload. -/
theorem FieldValidator.error_run_of_noFile
    (rules : validator.rules = .fileRequired demanded group message :: rest)
    (initializers : validator.initializers = [.getFile])
    (left : (surroundings.request.files.get? validator.name).all (·.status == .noFile)) :
    (validator.run surroundings ⟨value, none⟩).error =
      if demanded && group.all surroundings.groupHolds then some message else none := by
  refine error_run_of_missing rules ?_
  have upload : (validator.prepared surroundings.request value).upload
      = surroundings.request.files.get? validator.name := by
    rw [prepared, initializers]
    rfl
  rw [Rule.check, upload, if_pos left]

end

namespace Node

variable {messages : Messages} {tag : Node} {validator : FieldValidator}

/-- The first rule of a field that is neither a checkbox nor a file is about empty
values. -/
theorem required_of_validator? (made : tag.validator? messages = .ok (some validator))
    (noCheckbox : tag.kind ≠ .checkbox) (noFile : tag.kind ≠ .file) :
    ∃ rest, validator.rules = tag.head.requiredRule :: rest := by
  unfold validator? at made
  split at made
  · obtain ⟨made, done, same⟩ := map_eq_ok.mp made
    obtain rfl := Option.some.inj same
    obtain ⟨_, _, _, _, _, -, -, -, -, -, -, rules⟩ := Head.textValidator_eq_ok done
    exact ⟨_, rules⟩
  · next kind => exact absurd kind noCheckbox
  · cases made
    exact ⟨_, rfl⟩
  · cases made
    exact ⟨_, rfl⟩
  · cases made
    exact ⟨_, rfl⟩
  · next kind => exact absurd kind noFile
  · cases made

/-- The first rule of a file is about missing uploads. In a group it demands one whatever
else is written. -/
theorem fileRequired_of_validator? (made : tag.validator? messages = .ok (some validator))
    (file : tag.kind = .file) :
    validator.initializers = [.getFile] ∧ ∃ rest, validator.rules =
      .fileRequired (tag.head.flag "x:required" true || (tag.head.attr? "x:group").isSome)
        (tag.head.attr? "x:group") (tag.head.attrD "x:required-err" messages.fileRequired)
      :: rest := by
  unfold validator? at made
  rw [file] at made
  obtain ⟨made, done, same⟩ := map_eq_ok.mp made
  obtain rfl := Option.some.inj same
  obtain ⟨_, _, -, -, -, initializers, rules⟩ := Head.fileValidator_eq_ok done
  exact ⟨initializers, _, rules⟩

end Node

/-- A checkbox has no rule that fails. -/
theorem Head.error_run_checkboxValidator (head : Head) (surroundings : Surroundings)
    (value : Option Value) :
    (head.checkboxValidator.run surroundings ⟨value, none⟩).error = none := by
  unfold FieldValidator.run
  dsimp only
  rw [checkboxValidator, firstVerdict_cons, Rule.check]
  split_ifs with isOn
  · rfl
  · rfl

/-! ### Attributes -/

/-- Whether a field in this form is required, as both are written. -/
def Mark.isRequired (mark : Mark) (around : LiveTag) : Bool :=
  mark.tag.head.attrD "x:required" (around.head.attrD "x:required" "1") == "1"

/-- The message of a required field, as it is written. -/
def Mark.requiredMessage (messages : Messages) (mark : Mark) : String :=
  mark.tag.head.attrD "x:required-err" (mark.tag.kind.fieldMessages messages).required

private theorem Head.attrD_ofForm (head : Head) :
    head.ofForm.attrD "x:required" "1" = head.attrD "x:required" "1" := by
  rw [attrD, ofForm, attr?_setDefault, if_pos rfl, Option.getD_some]

namespace Mark.Makes

variable {messages : Messages} {mark : Mark} {around : LiveTag} {tag : Node}

private theorem flag_required (makes : mark.Makes messages around tag) :
    tag.head.flag "x:required" true = mark.isRequired around := by
  obtain ⟨id, -, head⟩ := makes.head
  rw [isRequired, Head.flag, head, Head.attr?_ofField]
  simp [Head.attrD_ofForm]

private theorem requiredMessage (makes : mark.Makes messages around tag) (fallback : String) :
    tag.head.attrD "x:required-err" fallback = mark.requiredMessage messages := by
  obtain ⟨id, -, head⟩ := makes.head
  rw [Mark.requiredMessage, Head.attrD, head, Head.attr?_ofField]
  simp

theorem group (makes : mark.Makes messages around tag) :
    tag.head.attr? "x:group" = mark.tag.head.attr? "x:group" :=
  makes.attr? (by decide)

end Mark.Makes

/-- What a form says of a field, made from a tag in the tag of the form, when nothing is
given for it. -/
structure Form.Requires (messages : Messages) (form : Form) (mark : Mark) (around : LiveTag)
    (validator : FieldValidator) (request : Request) (initial : Dict Value) : Prop where
  /-- A text or a choice that is left empty. -/
  value : mark.tag.kind ≠ .checkbox → mark.tag.kind ≠ .file →
    let values := Submission.mergeValues initial request.params
    let left := (validator.prepared request (values.get? validator.name)).value
    left = .string "" ∨ left = .array [] →
    (Submission.new form request initial).validate.error? validator.name =
      if mark.isRequired around && (mark.tag.head.attr? "x:group").all (form.groupHolds values) then
        some (mark.requiredMessage messages)
      else none
  /-- An upload that is missing. -/
  upload : mark.tag.kind = .file →
    let values := Submission.mergeValues initial request.params
    (∀ upload, request.files.get? validator.name = some upload → upload.status = .noFile) →
    (Submission.new form request initial).validate.error? validator.name =
      if (mark.tag.head.attr? "x:group").elim (mark.isRequired around) (form.groupHolds values) then
        some (mark.requiredMessage messages)
      else none
  checkbox : mark.tag.kind = .checkbox →
    (Submission.new form request initial).validate.error? validator.name = none

/-- A form requires its fields as it is written. -/
theorem Form.Validates.requires {messages : Messages} {trees : List Tree} {form : Form}
    {tag : Node} {validator : FieldValidator} {mark : Mark} {around : LiveTag}
    (validates : form.Validates messages trees tag validator)
    (makes : mark.Makes messages around tag) (distinct : form.fields.Nodup)
    (groups : (form.groups.map Group.id).Nodup) (request : Request) (initial : Dict Value) :
    form.Requires messages mark around validator request initial := by
  have made := validates.made
  have told := validates.error_validate distinct request initial
  have holds := Submission.groupHolds_new groups request initial
  constructor
  · intro noCheckbox noFile values left empty
    rw [← makes.kind] at noCheckbox noFile
    obtain ⟨rest, rules⟩ := Node.required_of_validator? made noCheckbox noFile
    have isEmpty : isEmptyValue left := by
      rcases empty with text | list
      · rw [text]; rfl
      · rw [list]; rfl
    rw [told, FieldValidator.error_run_of_empty rules isEmpty, holds, makes.flag_required,
      makes.group, makes.requiredMessage]
  · intro file values noFile
    rw [← makes.kind] at file
    obtain ⟨initializers, rest, rules⟩ := Node.fileRequired_of_validator? made file
    have missing : (request.files.get? validator.name).all (·.status == .noFile) := by
      rw [Option.all_eq_true]
      intro upload given
      rw [noFile upload given]
      rfl
    rw [told, FieldValidator.error_run_of_noFile rules initializers missing, holds,
      makes.flag_required, makes.group, makes.requiredMessage]
    -- In a group the flag is set, so it is the group alone that decides.
    cases mark.tag.head.attr? "x:group" with
    | none =>
      rw [Option.isSome_none, Bool.or_false, Option.all_none, Bool.and_true]
      rfl
    | some id =>
      rw [Option.isSome_some, Bool.or_true, Bool.true_and, Option.all_some]
      rfl
  · intro checkbox
    rw [← makes.kind] at checkbox
    unfold Node.validator? at made
    rw [checkbox] at made
    cases made
    rw [told, Head.error_run_checkboxValidator]

/-- Required fields. A form, if its fields have distinct names, says of each that is left
empty what is written in the tag of the field and that of the form. Of a name that is
none of its fields it says nothing. -/
theorem compileTemplate_required {setting : Setting} {text : String} {compiled : Compiled}
    (compiles : compileTemplate setting text = .ok compiled) :
    ∃ site, compiled.GrownFrom setting text site ∧
    ∃ walk, Walk.run setting (setting.tags text) = some walk ∧
      ∀ form ∈ compiled.forms, form.fields.Nodup → ∀ name,
        (name ∈ form.fields → ∃ tag validator,
          form.Validates setting.config.messages site.trees tag validator ∧
          validator.name = name ∧
          ∃ mark ∈ walk.marks, ∃ around,
            mark.Makes setting.config.messages around tag ∧ mark.name? = some name ∧
            ∀ request initial,
              form.Requires setting.config.messages mark around validator request initial) ∧
        (name ∉ form.fields → ∀ request initial,
          (Submission.new form request initial).validate.error? name = none) := by
  obtain ⟨site, grown, formed⟩ := compileTemplate_grows compiles
  obtain ⟨walk, ran, met⟩ := grown.exists_makes
  refine ⟨site, grown, walk, ran, ?_⟩
  intro form output distinct name
  have groups := grown.nodup_groups formed output
  constructor
  · intro member
    obtain ⟨tag, validator, validates, rfl⟩ := grown.exists_validates formed output member
    obtain ⟨mark, isMet, around, makes, name⟩ := met form tag validator validates
    exact ⟨tag, validator, validates, rfl, mark, isMet, around, makes, name,
      validates.requires makes distinct groups⟩
  · intro unknown
    obtain ⟨tree, -, defined⟩ :=
      exists_of_forall₂ (definedBy_of_grown grown formed).flip output
    rw [defined.names] at unknown
    exact Submission.error_validate_of_not_mem unknown

/-- A text and a file that are in a group, in a form that requires none. Where the group holds,
the text is required by its own tag and the file by the group. -/
theorem compileTemplate_required_page :
    let setting : Setting := ⟨.builtin, {}, "page"⟩
    let text := "<form:form id=\"f\" x:required=\"0\"><form:group id=\"g\" cond=\"$a\"/>" ++
      "<form:text id=\"t\" x:required=\"1\" x:group=\"g\"/><form:file id=\"u\" x:group=\"g\"/>" ++
      "</form:form>"
    let request (a : String) : Request := { method := .post, params := .ofList [("a", .string a)] }
    ∃ compiled, compileTemplate setting text = .ok compiled ∧ ∃ form ∈ compiled.forms,
      let errors (a : String) := (Submission.new form (request a) .empty).validate.error?
      errors "1" "t" = some "Required" ∧ errors "" "t" = none ∧
      errors "1" "u" = some "Please choose a file" ∧ errors "" "u" = none := by
  intro setting text request
  let values (a : String) := Submission.mergeValues .empty (request a).params
  have evaluated : ((compileTemplate setting text).toOption.any fun compiled : Compiled =>
      compiled.forms.map Form.fields = [["t", "u"]] ∧ ∀ form ∈ compiled.forms,
        form.groupHolds (values "1") "g" = true ∧ form.groupHolds (values "") "g" = false ∧
        ∀ a ∈ ["1", ""], ∀ validator ∈ form.validators, validator.name = "t" →
          Json.string? (validator.prepared (request a) ((values a).get? "t")).value = some "")
      = true := by
    rw [compileTemplate, String.toList_append, String.toList_append, String.toList_ofList,
      String.toList_ofList, String.toList_ofList]
    decide +kernel
  have met : ((Walk.run setting (setting.tags text)).any fun walk => walk.marks.all fun mark =>
      (mark.name? != some "t" || mark.tag.kind.style? == some .text &&
        mark.form?.any mark.isRequired && mark.tag.head.attr? "x:group" == some "g" &&
        mark.requiredMessage setting.config.messages == "Required") &&
      (mark.name? != some "u" || mark.tag.kind.isFile &&
        mark.tag.head.attr? "x:group" == some "g" &&
        mark.requiredMessage setting.config.messages == "Please choose a file")) = true := by
    rw [Setting.tags, String.toList_append, String.toList_append, String.toList_ofList,
      String.toList_ofList, String.toList_ofList]
    decide +kernel
  obtain ⟨compiled, compiles, fields, told⟩ := exists_of_any evaluated
  obtain ⟨site, -, walk, ran, required⟩ := compileTemplate_required compiles
  rw [ran, Option.any_some, List.all_eq_true] at met
  obtain ⟨form, forms, own⟩ := List.map_eq_singleton_iff.mp fields
  have output : form ∈ compiled.forms := by
    rw [forms]
    exact List.mem_singleton_self form
  obtain ⟨holds, fails, empty⟩ := told form output
  refine ⟨compiled, compiles, form, output, ?_⟩
  -- The name of a field tells which tag it was made from.
  have ofText : ∀ a ∈ ["1", ""], (Submission.new form (request a) .empty).validate.error? "t" =
      if form.groupHolds (values a) "g" then some "Required" else none := by
    intro a given
    obtain ⟨known, -⟩ := required form output (by rw [own]; decide) "t"
    obtain ⟨tag, validator, validates, isT, mark, isMet, around, makes, name, requires⟩ :=
      known (by rw [own]; decide)
    have left : (validator.prepared (request a) ((values a).get? validator.name)).value
        = .string "" := by
      rw [isT]
      exact Json.string?_eq_some.mp (empty a given validator validates.member isT)
    have written := (Bool.and_eq_true_iff.mp (met mark isMet)).1
    rw [name, makes.form, bne_self_eq_false, Bool.false_or] at written
    simp only [Bool.and_eq_true, beq_iff_eq, Option.any_some] at written
    obtain ⟨⟨⟨kind, isRequired⟩, group⟩, message⟩ := written
    have kind := TagKind.style?_eq_some.mp kind
    have noCheckbox : mark.tag.kind ≠ .checkbox := by simp [kind]
    have noFile : mark.tag.kind ≠ .file := by simp [kind]
    have error := (requires (request a) .empty).value noCheckbox noFile (.inl left)
    rwa [isT, isRequired, group, message, Bool.true_and, Option.all_some] at error
  have ofFile (a : String) : (Submission.new form (request a) .empty).validate.error? "u" =
      if form.groupHolds (values a) "g" then some "Please choose a file" else none := by
    obtain ⟨known, -⟩ := required form output (by rw [own]; decide) "u"
    obtain ⟨tag, validator, validates, isU, mark, isMet, around, makes, name, requires⟩ :=
      known (by rw [own]; decide)
    have written := (Bool.and_eq_true_iff.mp (met mark isMet)).2
    rw [name, bne_self_eq_false, Bool.false_or] at written
    simp only [Bool.and_eq_true, beq_iff_eq] at written
    obtain ⟨⟨kind, group⟩, message⟩ := written
    have noFile : ∀ upload, (request a).files.get? validator.name = some upload →
        upload.status = .noFile := by
      intro upload given
      cases given
    have error := (requires (request a) .empty).upload (TagKind.isFile_iff.mp kind) noFile
    rwa [isU, group, message, Option.elim_some] at error
  simp only [ofText "1" (by decide), ofText "" (by decide), ofFile, holds, fails]
  decide

end Stencil
