import Stencil.Proofs.Expr.Literals
import Stencil.Proofs.Forms

/-!
# What compiled forms hold

The natural numbers in the rules of a form fit into 64 bits, and the conditions of its groups
were parsed.
-/
namespace Stencil

/-- The natural number a rule compares with. -/
def Rule.natural? : Rule → Option Nat
  | .minLength n _ | .maxLength n _ | .minFileSize n _ | .maxFileSize n _ => some n
  | _ => none

def FieldValidator.IsBounded (validator : FieldValidator) : Prop :=
  ∀ rule ∈ validator.rules, ∀ n ∈ rule.natural?, n < Text.limit64

/-- A form as templates can define it. -/
structure Form.Plain (form : Form) : Prop where
  conditions : ∀ group ∈ form.groups, group.condition.Parsed
  validators : ∀ validator ∈ form.validators, validator.IsBounded

/-! ### Bounds -/

namespace Head

variable {head : Head}

private theorem lt_of_naturalBound? {key written : String} {n : Nat}
    (read : head.naturalBound? key = .ok (some (n, written))) : n < Text.limit64 := by
  unfold naturalBound? bound? at read
  split at read
  · cases read
  · split at read
    · next bound parsed =>
      cases read
      exact Text.natural_lt parsed
    · cases read

/-- The rule of a bound holds that bound. -/
theorem mem_boundRule {α : Type} {make : α → String → Rule} {key fallback : String}
    {bound : Option (α × String)} {rule : Rule}
    (member : rule ∈ head.boundRule make key fallback bound) :
    ∃ n written message, bound = some (n, written) ∧ rule = make n message := by
  cases bound with
  | none => cases member
  | some found =>
    obtain ⟨n, written⟩ := found
    exact ⟨n, written, _, rfl, List.mem_singleton.mp member⟩

/-- The rule of a natural bound holds what was read. -/
theorem natural_lt_of_mem_boundRule {make : Nat → String → Rule} {key key' fallback : String}
    {bound : Option (Nat × String)} (read : head.naturalBound? key' = .ok bound) {rule : Rule}
    (member : rule ∈ head.boundRule make key fallback bound)
    (holds : ∀ n message, (make n message).natural? = some n) :
    ∀ n ∈ rule.natural?, n < Text.limit64 := by
  obtain ⟨bound, written, message, rfl, rfl⟩ := mem_boundRule member
  intro n same
  rw [holds, Option.mem_some_iff] at same
  exact same ▸ lt_of_naturalBound? read

private theorem natural?_of_mem_boundRule {make : Double → String → Rule} {key fallback : String}
    {bound : Option (Double × String)} {rule : Rule}
    (member : rule ∈ head.boundRule make key fallback bound)
    (holds : ∀ d message, (make d message).natural? = none) : rule.natural? = none := by
  obtain ⟨d, written, message, rfl, rfl⟩ := mem_boundRule member
  exact holds d message

private theorem natural?_of_mem_patternRules {rules : List Rule}
    (made : head.patternRules = .ok rules)
    {rule : Rule} (member : rule ∈ rules) : rule.natural? = none := by
  unfold patternRules at made
  split at made
  · cases made
    cases member
  · split at made
    · cases made
      obtain rfl := List.mem_singleton.mp member
      rfl
    · cases made

private theorem natural?_of_mem_numberRules {bounded : Bool} {rule : Rule}
    (member : rule ∈ head.numberRules bounded) : rule.natural? = none := by
  cases bounded with
  | false => cases member
  | true =>
    obtain rfl := List.mem_singleton.mp member
    rfl

private theorem isBounded_textValidator {kind : TextKind} {validator : FieldValidator}
    (made : head.textValidator kind = .ok validator) : validator.IsBounded := by
  obtain ⟨minLength, maxLength, minSize, maxSize, patterns, readMin, readMax, -, -, readPattern, -,
    rules⟩ := textValidator_eq_ok made
  have none {rule : Rule} (absent : rule.natural? = none) : ∀ n ∈ rule.natural?, n < Text.limit64 := by
    rw [absent]
    exact nofun
  intro rule member
  rw [rules] at member
  simp only [List.cons_append, List.mem_cons, List.mem_append] at member
  rcases member with rfl | ((((minLength | maxLength) | number) | minSize) | maxSize) | pattern
  · exact none rfl
  · exact natural_lt_of_mem_boundRule readMin minLength fun _ _ => rfl
  · exact natural_lt_of_mem_boundRule readMax maxLength fun _ _ => rfl
  · exact none (natural?_of_mem_numberRules number)
  · exact none (natural?_of_mem_boundRule minSize fun _ _ => rfl)
  · exact none (natural?_of_mem_boundRule maxSize fun _ _ => rfl)
  · exact none (natural?_of_mem_patternRules readPattern pattern)

private theorem isBounded_fileValidator {messages : Messages} {validator : FieldValidator}
    (made : head.fileValidator messages = .ok validator) : validator.IsBounded := by
  obtain ⟨minSize, maxSize, readMin, readMax, -, -, rules⟩ := fileValidator_eq_ok made
  intro rule member
  rw [rules] at member
  simp only [List.cons_append, List.mem_cons, List.mem_append] at member
  rcases member with rfl | rfl | minSize | maxSize
  · exact nofun
  · exact nofun
  · exact natural_lt_of_mem_boundRule readMin minSize fun _ _ => rfl
  · exact natural_lt_of_mem_boundRule readMax maxSize fun _ _ => rfl

end Head

private theorem Node.isBounded_of_validator? {messages : Messages} {tag : Node}
    {validator : FieldValidator}
    (made : tag.validator? messages = .ok (some validator)) : validator.IsBounded := by
  -- Only text fields and uploads have bounds that are natural numbers.
  have plain {validator : FieldValidator} (rules : ∀ rule ∈ validator.rules, rule.natural? = none) :
      validator.IsBounded := by
    intro rule member
    rw [rules rule member]
    exact nofun
  unfold validator? at made
  split at made
  · obtain ⟨own, made, same⟩ := map_eq_ok.mp made
    cases same
    exact Head.isBounded_textValidator made
  · cases made
    exact plain (by simp [Head.checkboxValidator, Rule.natural?])
  · cases made
    exact plain (by simp [Head.selectValidator, Head.requiredRule, Rule.natural?])
  · cases made
    refine plain fun rule member => ?_
    rcases List.mem_cons.mp member with rfl | membership
    · rfl
    · split at membership
      · obtain rfl := List.mem_singleton.mp membership
        rfl
      · cases membership
  · cases made
    exact plain (by simp [Head.radioValidator, Head.requiredRule, Rule.natural?])
  · obtain ⟨own, made, same⟩ := map_eq_ok.mp made
    cases same
    exact Head.isBounded_fileValidator made
  · cases made

/-! ### Conditions -/

/-- The condition of a group, if the tag is one, was parsed. -/
def Node.ConditionParsed (tag : Node) : Prop :=
  ∀ condition, tag.kind = .group (some condition) → condition.Parsed

/-- A group is opened with the condition it is written with. -/
theorem Opening.conditionParsed_of_init {config : Config} {a b : Opening}
    (done : a.init config = .ok b) {condition : Expr} (group : b.kind = .group (some condition)) :
    condition.Parsed := by
  have unchanged (same : b.kind = a.kind) (other : a.kind ≠ .group (some condition)) :
      condition.Parsed := absurd (same.symm.trans group) other
  have ofField {messages : FieldMessages} (field : a.kind.validates)
      (done : a.initField messages = .ok b) : condition.Parsed := by
    refine unchanged (completed_of_initField field done).2 fun same => ?_
    rw [same] at field
    cases field
  obtain ⟨head, kind, parent, arena, statics⟩ := a
  unfold init at done
  cases kind with
  | root | button | errors =>
    cases done
    exact unchanged rfl nofun
  | form ids =>
    obtain ⟨-, -, -, same⟩ := initForm_eq_ok done
    exact unchanged same nofun
  | text style =>
    obtain ⟨opening, init, done⟩ := bind_eq_ok.mp done
    have same := (completed_of_initField rfl init).2
    cases done
    exact unchanged same nofun
  | checkbox =>
    obtain ⟨opening, init, done⟩ := bind_eq_ok.mp done
    obtain ⟨-, -, done⟩ := bind_eq_ok.mp done
    obtain ⟨-, -, done⟩ := bind_eq_ok.mp done
    cases done
    exact ofField rfl init
  | select multiple => exact ofField rfl done
  | radio => exact ofField rfl done
  | file => exact ofField rfl done
  | group written =>
    obtain ⟨registered, -, done⟩ := bind_eq_ok.mp done
    obtain ⟨source, -, done⟩ := bind_eq_ok.mp done
    split at done
    · next parsed read =>
      cases done
      cases group
      exact ⟨_, .inl read⟩
    · cases done
  | staticIf comparison =>
    obtain ⟨comparison, -, done⟩ := bind_eq_ok.mp done
    cases done
    cases group
  | staticSet =>
    obtain ⟨statics, -, done⟩ := bind_eq_ok.mp done
    cases done
    exact unchanged rfl nofun

/-- The conditions of all groups in a template were parsed. -/
theorem Forest.conditionParsed_of_grow {setting : Setting} {forest : Forest} {site : Site}
    (grown : forest.grow setting {} = .ok site) :
    ∀ entry ∈ Tree.entriesIn [] site.trees, entry.tag.ConditionParsed := by
  let parsed (site : Site) : Prop :=
    ∀ entry ∈ Tree.entriesIn [] site.trees, entry.tag.ConditionParsed
  change parsed site
  refine Forest.grow_invariant ?_ ?_ ?_ grown nofun
  · exact fun site text before => before
  · intro site around occurrence tag opened before
    obtain ⟨_, _, _, _, _, _, _, form, _, _, rfl⟩ := Site.openTag_eq_ok opened
    exact before
  · intro site around within occurrence tag opened _ inside before entry member
    have member : entry ∈ Tree.entriesIn [] (around.trees ++ [within.closed tag]) := member
    rw [Tree.entriesIn_append, Tree.entriesIn_singleton] at member
    rcases List.mem_append.mp member with earlier | here
    · exact before entry earlier
    · rcases Tree.mem_entries.mp here with rfl | ⟨inner, later, rfl⟩
      · -- Closing a tag changes no group, so the condition is the one it was opened with.
        intro condition group
        obtain ⟨kind, closed, same | ⟨isForm, -⟩⟩ := within.closed_tag tag
        · rw [closed, same] at group
          obtain ⟨_, _, opening, -, -, init, rfl, -⟩ := Site.openTag_eq_ok opened
          exact Opening.conditionParsed_of_init init group
        · rw [closed] at group
          change kind = _ at group
          rw [group] at isForm
          cases isForm
      · exact inside nofun inner later

/-! ### Forms -/

/-- The forms of a template that compiles are plain. -/
theorem plain_of_compileTemplate {setting : Setting} {text : String} {compiled : Compiled}
    (compiles : compileTemplate setting text = .ok compiled) {form : Form}
    (member : form ∈ compiled.forms) : form.Plain := by
  obtain ⟨site, grown, formed⟩ := compileTemplate_grows compiles
  have defined := definedBy_of_grown grown formed
  obtain ⟨⟨forest, -, -, grows⟩, -, -⟩ := grown
  obtain ⟨tree, isForm, here⟩ := exists_of_forall₂ defined.flip member
  constructor
  · intro group isIn
    obtain ⟨tag, listed, made⟩ := exists_of_forall₂ here.groups.flip isIn
    obtain ⟨listed, -⟩ := List.mem_filter.mp listed
    obtain ⟨inside, within, rfl⟩ := List.mem_map.mp listed
    obtain ⟨closed, -⟩ := List.mem_filter.mp isForm
    -- A group of the form is a tag that has grown somewhere inside of it.
    obtain ⟨entry, found, same⟩ :=
      Tree.exists_entry_of_mem_innerIn closed (List.mem_filter.mp within).1
    have parsed := Forest.conditionParsed_of_grow grows entry found
    rw [same] at parsed
    unfold Node.group? at made
    split at made
    · next condition kind =>
      cases made
      exact parsed condition kind
    · cases made
    · cases made
  · intro validator isIn
    obtain ⟨tag, -, made⟩ := exists_of_forall₂ here.validators.flip isIn
    exact Node.isBounded_of_validator? made

end Stencil
