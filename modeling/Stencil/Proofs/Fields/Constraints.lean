import Stencil.Proofs.Fields.Written
import Stencil.Proofs.Regex.Length

/-!
# What a text field demands of a text

Bounds on the length and on the size and a pattern are written as attributes of a field.
Each becomes a rule, and the first one that a text violates gives the message, so a text
is accepted exactly if it violates none.
-/
namespace Stencil

/-- What can be demanded of a text, in the order in which it is looked at. -/
inductive Constraint where
  | minLength
  | maxLength
  | number
  | minSize
  | maxSize
  | pattern
  deriving DecidableEq

namespace Constraint

def all : List Constraint := [.minLength, .maxLength, .number, .minSize, .maxSize, .pattern]

private theorem mem_all (constraint : Constraint) : constraint ∈ all := by
  cases constraint <;> decide

end Constraint

/-! ### Attributes -/

namespace Head

/-- The bound an attribute states, with the attribute as it is written. -/
def stated? {α β : Type} (read : List Char → Except β α) (head : Head) (key : String) :
    Option (α × String) :=
  (head.attr? key).bind fun written =>
    (read (Text.trim written.toList)).toOption.map fun bound => (bound, written)

/-- What is read off an attribute is what it states. -/
theorem stated?_of_bound? {α β : Type} {read : List Char → Except β α}
    {fault : String → β → AttributeFault} {head : Head} {key : String}
    {bound : Option (α × String)} (done : head.bound? read fault key = .ok bound) :
    head.stated? read key = bound ∧ bound.isSome = (head.attr? key).isSome := by
  unfold bound? at done
  rw [stated?]
  split at done
  next absent =>
    cases done
    rw [absent]
    exact ⟨rfl, rfl⟩
  next written given =>
    rw [given, Option.bind_some]
    split at done
    next isRead =>
      cases done
      rw [isRead]
      exact ⟨rfl, rfl⟩
    next => cases done

private theorem message_of_attr? {a b : Head} {key : String} (same : a.attr? key = b.attr? key) :
    a.message key = b.message key := by
  funext fallback value
  rw [message, message, attrD, attrD, same]

private theorem boundRule_of_attr? {α : Type} (make : α → String → Rule) {a b : Head} {key : String}
    (same : a.attr? key = b.attr? key) : a.boundRule make key = b.boundRule make key := by
  funext fallback bound
  cases bound with
  | none => rfl
  | some bound => rw [boundRule, boundRule, message_of_attr? same]

private theorem numberRules_of_attr? {a b : Head}
    (same : a.attr? "x:number-err" = b.attr? "x:number-err") : a.numberRules = b.numberRules := by
  funext bounded
  rw [numberRules, numberRules, attrD, attrD, same]

private theorem patternRules_eq_ok {head : Head} {rules : List Rule}
    (done : head.patternRules = .ok rules) : (∀ written, head.attr? "x:pattern" = some written →
      ∃ regex, Pattern.regex? written = some regex) ∧
    rules = (head.attr? "x:pattern").toList.map fun written =>
      .pattern written (head.message "x:pattern-err" "Invalid format" written) := by
  unfold patternRules at done
  split at done
  next absent =>
    cases done
    rw [absent]
    exact ⟨nofun, rfl⟩
  next written given =>
    split at done
    next regex isRegex =>
      cases done
      rw [given]
      refine ⟨?_, rfl⟩
      rintro _ ⟨⟩
      exact ⟨regex, isRegex⟩
    next => cases done

end Head

/-- The pattern of a field: that of its kind, or else the one that is written. -/
def Mark.pattern? (mark : Mark) : Option String :=
  (mark.tag.head.builtinPattern? mark.tag.kind).or (mark.tag.head.attr? "x:pattern")

namespace Constraint

/-- Whether a text violates what the tag of a field says. -/
def violated (mark : Mark) (text : List Char) : Constraint → Bool
  | .minLength => (mark.tag.head.stated? Text.natural64 "x:minlen").any (text.length < ·.1)
  | .maxLength => (mark.tag.head.stated? Text.natural64 "x:maxlen").any (·.1 < text.length)
  | .number => ((mark.tag.head.attr? "x:minsize").isSome || (mark.tag.head.attr? "x:maxsize").isSome)
    && !text.all Char.isDigit
  | .minSize => (mark.tag.head.stated? Double.parse "x:minsize").any ((sizeOfText text).lt ·.1)
  | .maxSize => (mark.tag.head.stated? Double.parse "x:maxsize").any (·.1.lt (sizeOfText text))
  | .pattern => (mark.pattern?.bind Pattern.regex?).any (!·.isMatch text)

/-- The message of a field for a text that violates what its tag says. -/
def message (mark : Mark) : Constraint → String
  | .minLength => mark.tag.head.message "x:minlen-err" "Minimum of % characters"
    (mark.tag.head.attrD "x:minlen" "")
  | .maxLength => mark.tag.head.message "x:maxlen-err" "Maximum of % characters"
    (mark.tag.head.attrD "x:maxlen" "")
  | .number => mark.tag.head.attrD "x:number-err" "Invalid number"
  | .minSize => mark.tag.head.message "x:minsize-err" "Minimum size of %"
    (mark.tag.head.attrD "x:minsize" "")
  | .maxSize => mark.tag.head.message "x:maxsize-err" "Maximum size of %"
    (mark.tag.head.attrD "x:maxsize" "")
  | .pattern => mark.tag.head.message "x:pattern-err" "Invalid format" (mark.pattern?.getD "")

/-- The rules that stand for a constraint: one if the tag states it, and none if not. -/
def rules (mark : Mark) : Constraint → List Rule
  | .minLength => mark.tag.head.boundRule .minLength "x:minlen-err" "Minimum of % characters"
    (mark.tag.head.stated? Text.natural64 "x:minlen")
  | .maxLength => mark.tag.head.boundRule .maxLength "x:maxlen-err" "Maximum of % characters"
    (mark.tag.head.stated? Text.natural64 "x:maxlen")
  | .number => mark.tag.head.numberRules
    ((mark.tag.head.attr? "x:minsize").isSome || (mark.tag.head.attr? "x:maxsize").isSome)
  | .minSize => mark.tag.head.boundRule .minSize "x:minsize-err" "Minimum size of %"
    (mark.tag.head.stated? Double.parse "x:minsize")
  | .maxSize => mark.tag.head.boundRule .maxSize "x:maxsize-err" "Maximum size of %"
    (mark.tag.head.stated? Double.parse "x:maxsize")
  | .pattern => mark.pattern?.toList.map fun written =>
    .pattern written (mark.tag.head.message "x:pattern-err" "Invalid format" written)

end Constraint

/-- What the tag of a field says can be read. -/
structure Mark.Stated (mark : Mark) : Prop where
  lengths : ∀ key ∈ ["x:minlen", "x:maxlen"],
    (mark.tag.head.stated? Text.natural64 key).isSome = (mark.tag.head.attr? key).isSome
  sizes : ∀ key ∈ ["x:minsize", "x:maxsize"],
    (mark.tag.head.stated? Double.parse key).isSome = (mark.tag.head.attr? key).isSome
  pattern : ∀ written, mark.pattern? = some written → ∃ regex, Pattern.regex? written = some regex

/-! ### Rules -/

section

variable {surroundings : Surroundings} {state : FieldState} {rest : List Rule}

private theorem firstVerdict_of_failedIf {rule : Rule} {wrong : Bool} {message : String}
    (checked : rule.check surroundings state = .failedIf wrong message) :
    firstVerdict surroundings state (rule :: rest) =
      if wrong then .failed message else firstVerdict surroundings state rest := by
  rw [firstVerdict_cons, checked, Verdict.failedIf]
  cases wrong with
  | true => rfl
  | false => rfl

/-- The rule of a bound fails where the bound is stated and does not hold. -/
theorem Head.firstVerdict_boundRule {α β : Type} {make : α → String → Rule} {test : α → Bool}
    (checks : ∀ bound message,
      (make bound message).check surroundings state = .failedIf (test bound) message)
    (read : List Char → Except β α) (head : Head) (key messageKey fallback : String) :
    firstVerdict surroundings state
        (head.boundRule make messageKey fallback (head.stated? read key) ++ rest) =
      if (head.stated? read key).any (test ·.1) then
        .failed (head.message messageKey fallback (head.attrD key ""))
      else firstVerdict surroundings state rest := by
  rw [stated?, attrD]
  cases head.attr? key with
  | none => rfl
  | some written =>
    rw [Option.bind_some, Option.getD_some]
    cases (read (Text.trim written.toList)).toOption with
    | none => rfl
    | some bound => exact firstVerdict_of_failedIf (checks bound _)

/-- The rules of a constraint fail with its message on what violates it. -/
theorem Constraint.firstVerdict_rules {mark : Mark} (stated : mark.Stated) {text : String}
    (present : text ≠ "") (atHand : state.value = .string text) (constraint : Constraint) :
    firstVerdict surroundings state (constraint.rules mark ++ rest) =
      if constraint.violated mark text.toList then .failed (constraint.message mark)
      else firstVerdict surroundings state rest := by
  have isText : state.text = text.toList := by rw [FieldState.text, atHand]
  cases constraint with
  | minLength =>
    have checks (min : Nat) (message : String) :
        (Rule.minLength min message).check surroundings state
          = .failedIf (text.toList.length < min) message := by
      rw [Rule.check, isText]
    exact Head.firstVerdict_boundRule checks _ _ _ _ _
  | maxLength =>
    have checks (max : Nat) (message : String) :
        (Rule.maxLength max message).check surroundings state
          = .failedIf (max < text.toList.length) message := by
      rw [Rule.check, isText]
    exact Head.firstVerdict_boundRule checks _ _ _ _ _
  | number =>
    rw [rules, violated, Head.numberRules]
    cases (mark.tag.head.attr? "x:minsize").isSome || (mark.tag.head.attr? "x:maxsize").isSome with
    | false => rfl
    | true =>
      refine firstVerdict_of_failedIf ?_
      have filled : text.toList.isEmpty = false := by
        simpa using present
      rw [Rule.check, isText, filled]
      rfl
  | minSize =>
    have checks (min : Double) (message : String) :
        (Rule.minSize min message).check surroundings state
          = .failedIf ((sizeOfText text.toList).lt min) message := by
      rw [Rule.check, isText]
    exact Head.firstVerdict_boundRule checks _ _ _ _ _
  | maxSize =>
    have checks (max : Double) (message : String) :
        (Rule.maxSize max message).check surroundings state
          = .failedIf (max.lt (sizeOfText text.toList)) message := by
      rw [Rule.check, isText]
    exact Head.firstVerdict_boundRule checks _ _ _ _ _
  | pattern =>
    rw [rules, violated, message]
    cases given : mark.pattern? with
    | none => rfl
    | some written =>
      obtain ⟨regex, isRegex⟩ := stated.pattern written given
      refine firstVerdict_of_failedIf ?_
      rw [Rule.check, isRegex, isText, Option.bind_some, isRegex]
      rfl

/-- The first constraint that is violated settles what the rules of some say. -/
theorem Constraint.firstVerdict_flatMap_rules {mark : Mark} (stated : mark.Stated) {text : String}
    (present : text ≠ "") (atHand : state.value = .string text) (constraints : List Constraint) :
    firstVerdict surroundings state (constraints.flatMap (rules mark)) =
      match constraints.find? (·.violated mark text.toList) with
      | some constraint => .failed (constraint.message mark)
      | none => .passed := by
  induction constraints with
  | nil => rfl
  | cons constraint later ih =>
    rw [List.flatMap_cons, firstVerdict_rules stated present atHand, List.find?_cons, ih]
    cases constraint.violated mark text.toList with
    | true => rfl
    | false => rfl

end

section

variable {messages : Messages} {mark : Mark} {around : LiveTag} {tag : Node}
  {validator : FieldValidator} {style : TextKind}

/-- The pattern of a field is the one its rule has. -/
theorem Mark.Makes.pattern? (makes : mark.Makes messages around tag) :
    tag.head.attr? "x:pattern" = mark.pattern? := by
  obtain ⟨id, -, head⟩ := makes.head
  rw [head, Head.attr?_ofField, if_pos rfl]
  rfl

/-- What a field is bound by is stated in its tag. -/
theorem Mark.Makes.stated?_of_bound? (makes : mark.Makes messages around tag) {α β : Type}
    {read : List Char → Except β α} {fault : String → β → AttributeFault} {key : String}
    {bound : Option (α × String)} (done : tag.head.bound? read fault key = .ok bound)
    (other : key ∉ ["x:pattern", "x:invalid-err", "x:required-err", "x:required", "name"]) :
    mark.tag.head.stated? read key = bound ∧
      bound.isSome = (mark.tag.head.attr? key).isSome := by
  have stated := Head.stated?_of_bound? done
  rw [Head.stated?, makes.attr? other] at stated
  exact stated

/-- The rules of a text field stand for the constraints its tag states, behind the one on
empty values. -/
theorem Mark.Makes.rules_textValidator (makes : mark.Makes messages around tag)
    (made : tag.head.textValidator style = .ok validator) :
    mark.Stated ∧
      validator.rules = tag.head.requiredRule :: Constraint.all.flatMap (Constraint.rules mark) := by
  obtain ⟨_, _, _, _, _, readMinLength, readMaxLength, readMinSize, readMaxSize, readPattern, -,
    rules⟩ := Head.textValidator_eq_ok made
  obtain ⟨rfl, isMinLength⟩ := makes.stated?_of_bound? readMinLength (by decide)
  obtain ⟨rfl, isMaxLength⟩ := makes.stated?_of_bound? readMaxLength (by decide)
  obtain ⟨rfl, isMinSize⟩ := makes.stated?_of_bound? readMinSize (by decide)
  obtain ⟨rfl, isMaxSize⟩ := makes.stated?_of_bound? readMaxSize (by decide)
  obtain ⟨isPattern, rfl⟩ := Head.patternRules_eq_ok readPattern
  rw [makes.pattern?] at isPattern
  rw [rules]
  -- Initialization leaves the messages as they are written.
  have kept (key : String) (other : key ∉ ["x:pattern", "x:invalid-err", "x:required-err",
      "x:required", "name"]) : tag.head.attr? key = mark.tag.head.attr? key := makes.attr? other
  constructor
  · refine ⟨?_, ?_, isPattern⟩
    · intro key member
      simp only [List.mem_cons, List.not_mem_nil, or_false] at member
      rcases member with rfl | rfl
      · exact isMinLength
      · exact isMaxLength
    · intro key member
      simp only [List.mem_cons, List.not_mem_nil, or_false] at member
      rcases member with rfl | rfl
      · exact isMinSize
      · exact isMaxSize
  · rw [isMinSize, isMaxSize, makes.pattern?,
      Head.boundRule_of_attr? .minLength (kept "x:minlen-err" (by decide)),
      Head.boundRule_of_attr? .maxLength (kept "x:maxlen-err" (by decide)),
      Head.numberRules_of_attr? (kept "x:number-err" (by decide)),
      Head.boundRule_of_attr? .minSize (kept "x:minsize-err" (by decide)),
      Head.boundRule_of_attr? .maxSize (kept "x:maxsize-err" (by decide)),
      Head.message_of_attr? (kept "x:pattern-err" (by decide))]
    simp [Constraint.all, Constraint.rules]

/-- On a text that is not empty the validator of a text field reports the first constraint
that is violated. -/
theorem Mark.Makes.error_run_of_text (makes : mark.Makes messages around tag)
    (made : tag.head.textValidator style = .ok validator) {surroundings : Surroundings}
    {value : Option Value} {text : String} (present : text ≠ "")
    (left : (validator.prepared surroundings.request value).value = .string text) :
    (validator.run surroundings ⟨value, none⟩).error =
      (Constraint.all.find? (·.violated mark text.toList)).map (Constraint.message mark) := by
  obtain ⟨stated, rules⟩ := makes.rules_textValidator made
  have filled : isEmptyValue (.string text) = false := by
    simpa [isEmptyValue] using present
  -- The rule on empty values has nothing to say.
  have passes : tag.head.requiredRule.check surroundings
      (validator.prepared surroundings.request value) = .passed := by
    rw [Head.requiredRule, Rule.check, left, filled, if_neg Bool.false_ne_true]
  unfold FieldValidator.run
  dsimp only
  rw [rules, firstVerdict_cons, passes]
  dsimp only
  rw [Constraint.firstVerdict_flatMap_rules stated present left]
  cases Constraint.all.find? (·.violated mark text.toList) with
  | none => rfl
  | some constraint => rfl

end

/-- A text field in no other value tag accepts a text exactly if it violates nothing of what
its tag says, and otherwise reports the first of the constraints that are violated. -/
theorem compileTemplate_constraints {setting : Setting} {text : String} {compiled : Compiled}
    (compiles : compileTemplate setting text = .ok compiled) :
    ∃ site, compiled.GrownFrom setting text site ∧
    ∃ walk, Walk.run setting (setting.tags text) = some walk ∧
      ∀ entry ∈ Tree.entriesIn [] site.trees, entry.isListed →
      ∀ style, entry.tag.kind = .text style →
        ∃ mark ∈ walk.marks, ∃ around,
          mark.Makes setting.config.messages around entry.tag ∧ mark.Stated ∧
        ∃ form ∈ compiled.forms, ∃ validator,
          form.Validates setting.config.messages site.trees entry.tag validator ∧
          mark.name? = some validator.name ∧
          (form.fields.Nodup → ∀ request initial submitted, submitted ≠ "" →
            (validator.prepared request
              ((Submission.mergeValues initial request.params).get? validator.name)).value
                = .string submitted →
            let error? := (Submission.new form request initial).validate.error? validator.name
            let violated (constraint : Constraint) := constraint.violated mark submitted.toList
            (error? = none ↔ ∀ constraint, violated constraint = false) ∧
            error? = (Constraint.all.find? violated).map (Constraint.message mark)) := by
  obtain ⟨site, grown, formed⟩ := compileTemplate_grows compiles
  obtain ⟨walk, ran, met⟩ := grown.exists_makes
  refine ⟨site, grown, walk, ran, ?_⟩
  intro entry member listed style kind
  have field : entry.tag.kind.validates := by
    rw [kind]
    rfl
  obtain ⟨form, output, validator, validates⟩ :=
    exists_validates_of_listed grown formed member listed field
  obtain ⟨mark, isMet, around, makes, name⟩ := met form entry.tag validator validates
  have made : entry.tag.head.textValidator style = .ok validator := by
    have made := validates.made
    unfold Node.validator? at made
    rw [kind] at made
    obtain ⟨made, done, same⟩ := map_eq_ok.mp made
    exact done.trans (congrArg Except.ok (Option.some.inj same))
  refine ⟨mark, isMet, around, makes, (makes.rules_textValidator made).1, form, output, validator,
    validates, name, ?_⟩
  intro distinct request initial submitted present left error? violated
  have reported : error? = (Constraint.all.find? violated).map (Constraint.message mark) :=
    (validates.error_validate distinct request initial).trans
      (makes.error_run_of_text made present left)
  refine ⟨?_, reported⟩
  rw [reported, Option.map_eq_none_iff, List.find?_eq_none]
  constructor
  · intro none constraint
    exact eq_false_of_ne_true (none constraint constraint.mem_all)
  · intro none constraint _
    rw [none constraint]
    exact Bool.false_ne_true

/-- Two characters are less than five. -/
theorem compileTemplate_constraints_page :
    let setting : Setting := ⟨.builtin, {}, "page"⟩
    let text := "<form:form id=\"f\"><form:text id=\"t\" x:minlen=\"5\"/></form:form>"
    let request : Request := { method := .post, params := .ofList [("t", .string "ab")] }
    ∃ compiled, compileTemplate setting text = .ok compiled ∧ ∃ form ∈ compiled.forms,
      (Submission.new form request .empty).validate.error? "t" = some "Minimum of 5 characters" := by
  intro setting text request
  let formOpens : Markup.Occurrence :=
    ⟨false, false, "form", "form", "id=\"f\"".toList, ⟨0, 1, 1⟩, ⟨18, 1, 19⟩⟩
  let opens : Markup.Occurrence :=
    ⟨false, true, "form", "text", "id=\"t\" x:minlen=\"5\"".toList, ⟨18, 1, 19⟩, ⟨50, 1, 51⟩⟩
  let formCloses : Markup.Occurrence := ⟨true, false, "form", "form", [], ⟨50, 1, 51⟩, ⟨62, 1, 63⟩⟩
  let forest : Forest :=
    .element [] formOpens (.single [] opens (.text [])) formCloses (.text [])
  have proper : forest.Proper := by
    simp [forest, formOpens, opens, formCloses, Forest.Proper]
  have scanned : forest.scan = Markup.scan setting.registry.namespaces text.toList := by
    rw [String.toList_ofList]
    decide +kernel
  have prepared : ((compileTemplate setting text).toOption.any fun compiled : Compiled =>
      ∀ form ∈ compiled.forms, form.fields.Nodup ∧ ∀ validator ∈ form.validators,
        Json.string? (validator.prepared request (some (.string "ab"))).value = some "ab") = true := by
    rw [compileTemplate, String.toList_ofList]
    decide +kernel
  have entries : ((forest.grow setting {}).toOption.any fun site : Site =>
      ∃ entry ∈ Tree.entriesIn [] site.trees, entry.isListed ∧ entry.tag.head.fieldName = "t" ∧
        entry.tag.kind.style? = some .text) = true := by
    decide +kernel
  have violates : ((Walk.run setting (setting.tags text)).any fun walk => walk.marks.all fun mark =>
      mark.name? != some "t" || Constraint.minLength.violated mark "ab".toList &&
        Constraint.minLength.message mark == "Minimum of 5 characters") = true := by
    rw [Setting.tags, String.toList_ofList]
    decide +kernel
  obtain ⟨compiled, compiles, prepared⟩ := exists_of_any prepared
  obtain ⟨site, grows, entry, member, listed, isT, isText⟩ := exists_of_any entries
  obtain ⟨other, grown, walk, ran, constrained⟩ := compileTemplate_constraints compiles
  obtain rfl : other = site :=
    Except.ok.inj ((grown.grow_eq proper scanned).symm.trans grows)
  obtain ⟨mark, isMet, around, -, -, form, output, validator, validates, name, reports⟩ :=
    constrained entry member listed .text (TagKind.style?_eq_some.mp isText)
  obtain ⟨distinct, prepared⟩ := prepared form output
  have own : validator.name = "t" := validates.names.2.trans isT
  have left : (validator.prepared request (some (.string "ab"))).value = .string "ab" :=
    Json.string?_eq_some.mp (prepared validator validates.member)
  rw [ran, Option.any_some, List.all_eq_true] at violates
  have short := violates mark isMet
  rw [name, own, bne_self_eq_false, Bool.false_or, Bool.and_eq_true, beq_iff_eq] at short
  obtain ⟨-, reported⟩ := reports distinct request .empty "ab" (by decide) (by rw [own]; exact left)
  refine ⟨compiled, compiles, form, output, ?_⟩
  rw [own, Constraint.all, List.find?_cons_of_pos short.1, Option.map_some, short.2] at reported
  exact reported

/-- A text that is shorter than all matches of a pattern violates it. -/
theorem FieldValidator.error_run_of_short {validator : FieldValidator} {surroundings : Surroundings}
    {value : Option Value} {text written message missing : String} {demanded : Bool}
    {group : Option String} {regex : Regex}
    (rules : validator.rules = [.required demanded group missing, .pattern written message])
    (present : text ≠ "") (left : (validator.prepared surroundings.request value).value = .string text)
    (isRegex : Pattern.regex? written = some regex) (short : text.toList.length < regex.minLength) :
    (validator.run surroundings ⟨value, none⟩).error = some message := by
  have filled : isEmptyValue (.string text) = false := by
    simpa [isEmptyValue] using present
  have isText : (validator.prepared surroundings.request value).text = text.toList := by
    rw [FieldState.text, left]
  unfold run
  dsimp only
  rw [rules, firstVerdict_cons, Rule.check, left, filled, if_neg Bool.false_ne_true]
  dsimp only
  rw [firstVerdict_cons, Rule.check, isRegex, isText]
  dsimp only
  rw [Regex.isMatch_of_short short]
  rfl

/-- With one field only the error is what its validator makes of the value. -/
theorem Form.error_validate_of_singleton {form : Form} {validator : FieldValidator}
    (validators : form.validators = [validator]) {request : Request} {value : Value}
    (submitted : request.params.get? validator.name = some value) (initial : Dict Value) :
    (Submission.new form request initial).validate.error? validator.name
      = (validator.run (Submission.new form request initial).surroundings
          ⟨some value, none⟩).error := by
  have member : validator ∈ form.validators := by
    rw [validators]
    exact List.mem_singleton_self validator
  have distinct : (form.validators.map FieldValidator.name).Nodup := by
    rw [validators]
    exact List.nodup_cons.mpr ⟨List.not_mem_nil, .nil⟩
  have alone : (Submission.new form request initial).validate.record validator.name = _ :=
    Submission.record_validate distinct member
  rw [Submission.record_new submitted] at alone
  exact congrArg FieldRecord.error alone

/-- A walk that was evaluated meets a tag with a property. -/
theorem Walk.exists_of_any {result : Option Walk} {p : Mark → Prop} [DecidablePred p]
    (evaluated : (result.any fun walk => ∃ mark ∈ walk.marks, p mark) = true) :
    ∃ walk, result = some walk ∧ ∃ mark ∈ walk.marks, p mark := by
  obtain ⟨walk, ran, met⟩ := (Option.any_eq_true _ _).mp evaluated
  exact ⟨walk, ran, of_decide_eq_true met⟩

/-- A text that matches the pattern written for an address is no address, and a form knows
nothing of a text field in a radio field. -/
theorem compileTemplate_constraints_overruled :
    let setting : Setting := ⟨.builtin, {}, "page"⟩
    let address := "<form:form id=\"f\"><form:url id=\"u\" x:pattern=\"/^[0-9]+$/\"/></form:form>"
    let nested := "<form:form id=\"f\"><form:radio id=\"r\" x:required=\"0\">" ++
      "<form:text id=\"t\" x:minlen=\"5\"/></form:radio></form:form>"
    let post (name value : String) : Request :=
      { method := .post, params := .ofList [(name, .string value)] }
    (∃ compiled, compileTemplate setting address = .ok compiled ∧
      (∃ walk, Walk.run setting (setting.tags address) = some walk ∧
        ∃ mark ∈ walk.marks, mark.name? = some "u" ∧
          ((mark.tag.head.attr? "x:pattern").bind Pattern.regex?).any (·.isMatch ['1'])) ∧
      ∃ form ∈ compiled.forms, form.fields = ["u"] ∧
        (Submission.new form (post "u" "1") .empty).validate.error? "u" = some "Invalid format") ∧
    ∃ compiled, compileTemplate setting nested = .ok compiled ∧
      (∃ walk, Walk.run setting (setting.tags nested) = some walk ∧
        ∃ mark ∈ walk.marks, mark.name? = some "t" ∧
          Constraint.minLength.violated mark ['a', 'b']) ∧
      ∃ form ∈ compiled.forms, form.fields = ["r"] ∧
        (Submission.new form (post "t" "ab") .empty).validate.error? "t" = none := by
  intro setting address nested post
  constructor
  · have evaluated : ((compileTemplate setting address).toOption.any fun compiled : Compiled =>
        ∃ form ∈ compiled.forms, form.fields = ["u"] ∧ form.validators.map FieldValidator.rules =
          [[.required true none "Required",
            .pattern (urlPattern ["http", "https"] false) "Invalid format"]] ∧
        ∀ validator ∈ form.validators, validator.name = "u" ∧ Json.string?
          (validator.prepared (post "u" "1") (some (.string "1"))).value = some "1") = true := by
      rw [compileTemplate, String.toList_ofList]
      decide +kernel
    have long : ((Pattern.regex? (urlPattern ["http", "https"] false)).any
        fun regex => 1 < regex.minLength) = true := by
      decide +kernel
    -- What else is in the pattern does not matter.
    generalize urlPattern ["http", "https"] false = pattern at evaluated long
    obtain ⟨compiled, compiles, form, output, fields, rules, only⟩ := exists_of_any evaluated
    obtain ⟨validator, validators, rules⟩ := List.map_eq_singleton_iff.mp rules
    obtain ⟨regex, isRegex, long⟩ := (Option.any_eq_true _ _).mp long
    obtain ⟨isU, left⟩ := only validator (validators ▸ List.mem_singleton_self validator)
    have submitted : (post "u" "1").params.get? validator.name = some (.string "1") := by
      rw [isU]
      rfl
    have told := Form.error_validate_of_singleton validators submitted .empty
    rw [isU] at told
    refine ⟨compiled, compiles, Walk.exists_of_any ?_, form, output, fields, told.trans ?_⟩
    · decide +kernel
    · exact FieldValidator.error_run_of_short rules (by decide)
        (Json.string?_eq_some.mp left) isRegex (of_decide_eq_true long)
  · have evaluated : ((compileTemplate setting nested).toOption.any fun compiled : Compiled =>
        ∃ form ∈ compiled.forms, form.fields = ["r"] ∧
          (Submission.new form (post "t" "ab") .empty).validate.error? "t" = none) = true := by
      rw [compileTemplate, String.toList_append, String.toList_ofList, String.toList_ofList]
      decide +kernel
    obtain ⟨compiled, compiles, form, output, fields, accepted⟩ := exists_of_any evaluated
    refine ⟨compiled, compiles, Walk.exists_of_any ?_, form, output, fields, accepted⟩
    decide +kernel

end Stencil
