import Stencil.Proofs.Fields.Constraints

/-!
# Cleansed values

What a text field stores is a part of what was submitted for it, and holds nothing that its
tag says should go. Each initializer sees to one such thing, and those behind it only take
out more.
-/
namespace Stencil

/-! ### Texts -/

namespace Initializer

/-- Initializers that ask for no list make a text of a text. -/
theorem exists_part_of_settleAll {initializers : List Initializer}
    (noList : .ensureList ∉ initializers) (text : List Char) :
    ∃ part, part.Sublist text ∧
      settleAll initializers (some (.string (String.ofList text)))
        = some (.string (String.ofList part)) := by
  induction initializers generalizing text with
  | nil => exact ⟨text, .refl text, rfl⟩
  | cons first rest ih =>
    rw [List.mem_cons, not_or] at noList
    cases given : first.cleansing? with
    | none =>
      obtain ⟨part, within, left⟩ := ih noList.2 text
      refine ⟨part, within, ?_⟩
      rw [← left, settleAll, List.foldl_cons, settle_of_none given (Ne.symm noList.1)]
      rfl
    | some change =>
      obtain ⟨part, within, left⟩ := ih noList.2 (change text)
      refine ⟨part, within.trans ((cleanses given).sublist text), ?_⟩
      rw [← left, settleAll, List.foldl_cons, settle_of_cleansing? given, storedText_string]
      rfl

/-- Behind all initializers there is nothing left for any of them. -/
theorem cleansed_of_mem {initializers : List Initializer} {initializer : Initializer}
    {change : List Char → List Char} {stored : Option Value} {text : List Char}
    (noList : .ensureList ∉ initializers) (member : initializer ∈ initializers)
    (given : initializer.cleansing? = some change)
    (left : settleAll initializers stored = some (.string (String.ofList text))) :
    change text = text := by
  rcases settled_or_constant initializers with settled | ⟨list, -⟩
  · have same := cleansed_of_settle given (settled stored initializer member)
    rwa [left, storedText_string] at same
  · exact absurd list noList

end Initializer

namespace Head

/-- What the tag of a text field sees to in a text that was submitted for it. -/
structure Cleans (head : Head) (style : TextKind) (submitted text : List Char) : Prop where
  part : text.Sublist submitted
  control : ∀ c ∈ text, Text.isAsciiControl c → style = .textarea ∧ c ∈ ['\t', '\n', '\r']
  markup : '<' ∈ text → ∃ written, head.attr? "x:nohtml" = some written ∧ written ≠ "1"
  removed : ∀ chars, head.attr? "x:remove" = some chars → ∀ c ∈ text, c ∉ chars.toList
  kept : ∀ chars, head.attr? "x:keep" = some chars → ∀ c ∈ text, c ∈ chars.toList

/-- Nothing but three attributes counts. -/
theorem Cleans.congr {a b : Head} {style : TextKind} {submitted text : List Char}
    (cleans : a.Cleans style submitted text)
    (same : ∀ key ∈ ["x:nohtml", "x:remove", "x:keep"], a.attr? key = b.attr? key) :
    b.Cleans style submitted text where
  part := cleans.part
  control := cleans.control
  markup := same "x:nohtml" (by decide) ▸ cleans.markup
  removed := same "x:remove" (by decide) ▸ cleans.removed
  kept := same "x:keep" (by decide) ▸ cleans.kept

variable {head : Head} {style : TextKind} {validator : FieldValidator}

/-- What becomes of the value of a text field before it is validated. -/
def textInitializers (head : Head) (style : TextKind) : List Initializer :=
  [.ensureString, .stripControl (style == .textarea)]
    ++ head.markupInitializers ++ head.removeInitializers ++ head.keepInitializers

private theorem initializers_of_textValidator (made : head.textValidator style = .ok validator) :
    validator.initializers = .getValue :: head.textInitializers style := by
  obtain ⟨_, -, made⟩ := bind_eq_ok.mp made
  obtain ⟨_, -, made⟩ := bind_eq_ok.mp made
  obtain ⟨_, -, made⟩ := bind_eq_ok.mp made
  obtain ⟨_, -, made⟩ := bind_eq_ok.mp made
  obtain ⟨_, -, made⟩ := bind_eq_ok.mp made
  cases made
  rfl

private theorem not_mem_textInitializers (head : Head) (style : TextKind) :
    .ensureList ∉ head.textInitializers style := by
  have markup : .ensureList ∉ head.markupInitializers := by
    unfold markupInitializers
    split <;> simp
  have remove : .ensureList ∉ head.removeInitializers := by
    unfold removeInitializers
    split <;> simp
  have keep : .ensureList ∉ head.keepInitializers := by
    unfold keepInitializers
    split <;> simp
  simp [textInitializers, markup, remove, keep]

/-- A text field makes a clean text of whatever was stored. -/
theorem cleans_textInitializers (head : Head) (style : TextKind) (stored : Option Value) :
    ∃ text, Initializer.settleAll (head.textInitializers style) stored
        = some (.string (String.ofList text)) ∧
      head.Cleans style (storedText stored) text := by
  have noList := head.not_mem_textInitializers style
  -- The first initializer makes a text of anything, the others keep a part of that.
  obtain ⟨text, part, left⟩ := Initializer.exists_part_of_settleAll
    (List.not_mem_of_not_mem_cons noList) (storedText stored)
  have left : Initializer.settleAll (head.textInitializers style) stored
      = some (.string (String.ofList text)) := left
  refine ⟨text, left, part, ?_, ?_, ?_, ?_⟩
  · intro c member control
    have strips : .stripControl (style == .textarea) ∈ head.textInitializers style := by
      simp [textInitializers]
    have same : Text.stripControl (style == .textarea) text = text :=
      Initializer.cleansed_of_mem noList strips rfl left
    have kept := List.filter_eq_self.mp same c member
    rw [control] at kept
    simpa [or_assoc] using kept
  · intro member
    by_contra written
    have flag : head.flag "x:nohtml" true := by
      unfold flag
      split
      · next value given =>
        by_contra other
        exact written ⟨value, given, by simpa using other⟩
      · rfl
    have strips : .stripMarkup ∈ head.textInitializers style := by
      simp [textInitializers, markupInitializers, flag]
    have same : Text.stripMarkup text = text :=
      Initializer.cleansed_of_mem noList strips rfl left
    exact Text.stripMarkup_eq_self_iff.mp same member
  · intro chars given c member
    have removes : .removeChars chars ∈ head.textInitializers style := by
      simp [textInitializers, removeInitializers, given]
    have same : Text.removeChars chars.toList text = text :=
      Initializer.cleansed_of_mem noList removes rfl left
    simpa using List.filter_eq_self.mp same c member
  · intro chars given c member
    have keeps : .keepChars chars ∈ head.textInitializers style := by
      simp [textInitializers, keepInitializers, given]
    have same : Text.keepChars chars.toList text = text :=
      Initializer.cleansed_of_mem noList keeps rfl left
    simpa using List.filter_eq_self.mp same c member

end Head

/-! ### Rules -/

private theorem Head.not_mem_boundRule {α : Type} {make : α → String → Rule} {rule : Rule}
    (differs : ∀ bound message, rule ≠ make bound message) (head : Head) (key fallback : String)
    (bound : Option (α × String)) : rule ∉ head.boundRule make key fallback bound := by
  cases bound with
  | none => exact List.not_mem_nil
  | some found => exact fun member => differs _ _ (List.mem_singleton.mp member)

private theorem Constraint.checkboxOnOff_not_mem_rules (mark : Mark) (on off : String)
    (constraint : Constraint) : .checkboxOnOff on off ∉ constraint.rules mark := by
  cases constraint with
  | number =>
    rw [rules, Head.numberRules]
    split <;> simp
  | pattern => simp [rules]
  | _ =>
    apply Head.not_mem_boundRule
    intro bound message contrary
    cases contrary

/-- No rule of a text field puts another value in place. -/
theorem Mark.Makes.no_checkboxOnOff {messages : Messages} {mark : Mark} {around : LiveTag}
    {tag : Node} {validator : FieldValidator} {style : TextKind}
    (makes : mark.Makes messages around tag) (made : tag.head.textValidator style = .ok validator)
    (on off : String) : .checkboxOnOff on off ∉ validator.rules := by
  obtain ⟨-, rules⟩ := makes.rules_textValidator made
  rw [rules, List.mem_cons, List.mem_flatMap]
  rintro (required | ⟨constraint, -, member⟩)
  · cases required
  · exact constraint.checkboxOnOff_not_mem_rules mark on off member

/-! ### Forms -/

/-- The validator of a text field. -/
theorem Form.Validates.textValidator {messages : Messages} {trees : List Tree} {form : Form}
    {tag : Node} {validator : FieldValidator} {style : TextKind}
    (validates : form.Validates messages trees tag validator) (kind : tag.kind = .text style) :
    tag.head.textValidator style = .ok validator := by
  have made := validates.made
  unfold Node.validator? at made
  rw [kind] at made
  exact eq_ok_of_map_some made

/-- Cleansed values. A text field in no other value tag stores, whatever was submitted for it
and whatever was its initial value, a text that is a part of that, without what its tag says
should go. -/
theorem compileTemplate_cleansed {setting : Setting} {text : String} {compiled : Compiled}
    (compiles : compileTemplate setting text = .ok compiled) :
    ∃ site, compiled.GrownFrom setting text site ∧
    ∃ walk, Walk.run setting (setting.tags text) = some walk ∧
      ∀ entry ∈ Tree.entriesIn [] site.trees, entry.isListed →
      ∀ style, entry.tag.kind = .text style →
        ∃ mark ∈ walk.marks, ∃ around, mark.Makes setting.config.messages around entry.tag ∧
        ∃ form ∈ compiled.forms, ∃ validator,
          form.Validates setting.config.messages site.trees entry.tag validator ∧
          mark.name? = some validator.name ∧
          (form.fields.Nodup → ∀ request initial,
            let before := (Submission.mergeValues initial request.params).get? validator.name
            ∃ after, (Submission.new form request initial).validate.get? validator.name
                = some (.string after) ∧
              mark.tag.head.Cleans style (storedText before) after.toList) := by
  obtain ⟨site, grown, formed⟩ := compileTemplate_grows compiles
  obtain ⟨walk, ran, met⟩ := grown.exists_makes
  refine ⟨site, grown, walk, ran, ?_⟩
  intro entry member listed style kind
  have field : entry.tag.kind.validates := by
    rw [kind]
    rfl
  obtain ⟨form, output, validator, validates⟩ :=
    exists_validates_of_listed grown formed member listed field
  obtain ⟨mark, isMet, around, makes, name⟩ := met form entry.tag validator validates
  refine ⟨mark, isMet, around, makes, form, output, validator, validates, name, ?_⟩
  intro distinct request initial before
  have made := validates.textValidator kind
  obtain ⟨cleansed, left, cleans⟩ := entry.tag.head.cleans_textInitializers style before
  refine ⟨String.ofList cleansed, ?_, ?_⟩
  · -- The field keeps what the initializers left, since no rule of it replaces a value.
    rw [validates.get?_validate distinct, FieldValidator.value_run (makes.no_checkboxOnOff made),
      FieldValidator.prepared_of_getValue (Head.initializers_of_textValidator made)]
    exact left
  · -- Of the attributes only three matter here, and those are the written ones.
    rw [String.toList_ofList]
    apply cleans.congr
    intro key written
    apply makes.attr?
    simp only [List.mem_cons, List.not_mem_nil, or_false] at written
    rcases written with rfl | rfl | rfl
    all_goals decide

/-- A text field stores no markup, and nothing that is to be removed. -/
theorem compileTemplate_cleansed_page :
    let setting : Setting := ⟨.builtin, {}, "page"⟩
    let text := "<form:form id=\"f\"><form:text id=\"t\" x:remove=\"-\"/></form:form>"
    ∃ compiled, compileTemplate setting text = .ok compiled ∧ ∃ form ∈ compiled.forms,
      ∀ request initial, ∃ after,
        (Submission.new form request initial).validate.get? "t" = some (.string after) ∧
          '<' ∉ after.toList ∧ '-' ∉ after.toList := by
  intro setting text
  let formOpens : Markup.Occurrence :=
    ⟨false, false, "form", "form", "id=\"f\"".toList, ⟨0, 1, 1⟩, ⟨18, 1, 19⟩⟩
  let opens : Markup.Occurrence :=
    ⟨false, true, "form", "text", "id=\"t\" x:remove=\"-\"".toList, ⟨18, 1, 19⟩, ⟨50, 1, 51⟩⟩
  let formCloses : Markup.Occurrence := ⟨true, false, "form", "form", [], ⟨50, 1, 51⟩, ⟨62, 1, 63⟩⟩
  let forest : Forest :=
    .element [] formOpens (.single [] opens (.text [])) formCloses (.text [])
  have proper : forest.Proper := by
    simp [forest, formOpens, opens, formCloses, Forest.Proper]
  have scanned : forest.scan = Markup.scan setting.registry.namespaces text.toList := by
    rw [String.toList_ofList]
    decide +kernel
  have distinct : ((compileTemplate setting text).toOption.any fun compiled : Compiled =>
      ∀ form ∈ compiled.forms, form.fields.Nodup) = true := by
    rw [compileTemplate, String.toList_ofList]
    decide +kernel
  have entries : ((forest.grow setting {}).toOption.any fun site : Site =>
      ∃ entry ∈ Tree.entriesIn [] site.trees, entry.isListed ∧ entry.tag.head.fieldName = "t" ∧
        entry.tag.kind.style? = some .text) = true := by
    decide +kernel
  have written : ((Walk.run setting (setting.tags text)).any fun walk => walk.marks.all fun mark =>
      mark.name? != some "t" || mark.tag.head.attr? "x:nohtml" == none &&
        mark.tag.head.attr? "x:remove" == some "-") = true := by
    rw [Setting.tags, String.toList_ofList]
    decide +kernel
  obtain ⟨compiled, compiles, distinct⟩ := exists_of_any distinct
  obtain ⟨site, grows, entry, member, listed, isT, isText⟩ := exists_of_any entries
  obtain ⟨other, grown, walk, ran, cleansed⟩ := compileTemplate_cleansed compiles
  obtain rfl : other = site :=
    Except.ok.inj ((grown.grow_eq proper scanned).symm.trans grows)
  obtain ⟨mark, isMet, around, -, form, output, validator, validates, name, stores⟩ :=
    cleansed entry member listed .text (TagKind.style?_eq_some.mp isText)
  have own : validator.name = "t" := validates.names.2.trans isT
  rw [ran, Option.any_some, List.all_eq_true] at written
  have attributes := written mark isMet
  rw [name, own, bne_self_eq_false, Bool.false_or, Bool.and_eq_true, beq_iff_eq,
    beq_iff_eq] at attributes
  refine ⟨compiled, compiles, form, output, ?_⟩
  intro request initial
  obtain ⟨after, stored, cleans⟩ := stores (distinct form output) request initial
  refine ⟨after, own ▸ stored, ?_, ?_⟩
  · intro bracket
    obtain ⟨_, given, -⟩ := cleans.markup bracket
    rw [attributes.1] at given
    cases given
  · intro dash
    exact cleans.removed "-" attributes.2 '-' dash (by decide)

/-- A form knows nothing of a text field in a radio field, whose value stays as it is. -/
theorem compileTemplate_cleansed_unseen :
    let setting : Setting := ⟨.builtin, {}, "page"⟩
    let text := "<form:form id=\"f\"><form:radio id=\"r\" x:required=\"0\">" ++
      "<form:text id=\"t\"/></form:radio></form:form>"
    let request : Request := { method := .post, params := .ofList [("t", .string "<b>")] }
    ∃ compiled, compileTemplate setting text = .ok compiled ∧
      (∃ walk, Walk.run setting (setting.tags text) = some walk ∧
        ∃ mark ∈ walk.marks, mark.name? = some "t" ∧ mark.tag.kind.style? = some .text ∧
          mark.form?.isSome ∧ mark.tag.head.attr? "x:nohtml" = none) ∧
      ∃ form ∈ compiled.forms, form.fields = ["r"] ∧
        (Submission.new form request .empty).validate.get? "t" = some (.string "<b>") := by
  intro setting text request
  have evaluated : ((compileTemplate setting text).toOption.any fun compiled : Compiled =>
      ∃ form ∈ compiled.forms, form.fields = ["r"] ∧
        ((Submission.new form request .empty).validate.get? "t").bind Json.string?
          = some "<b>") = true := by
    rw [compileTemplate, String.toList_append, String.toList_ofList, String.toList_ofList]
    decide +kernel
  obtain ⟨compiled, compiles, form, output, fields, kept⟩ := exists_of_any evaluated
  obtain ⟨value, stored, isText⟩ := Option.bind_eq_some_iff.mp kept
  rw [Json.string?_eq_some.mp isText] at stored
  refine ⟨compiled, compiles, Walk.exists_of_any ?_, form, output, fields, stored⟩
  decide +kernel

end Stencil
