import Stencil.Json.Decode
import Stencil.Proofs.Fields.Prepared
import Stencil.Proofs.Placement.Ids
import Stencil.Proofs.Placement.Written
import Stencil.Proofs.Submission

/-!
# The fields of a form as they are written

A form has its fields from tags of the text, and in the order of these. What is stored of
a field when nothing has been validated yet comes from the request and the initial values,
and so does which groups hold.
-/
namespace Stencil

/-! ### Tags -/

private theorem Form.Validates.exists_entry {messages : Messages} {trees : List Tree} {form : Form}
    {tag : Node} {validator : FieldValidator}
    (validates : form.Validates messages trees tag validator) :
    tag.kind.validates ∧ ∃ entry ∈ Tree.entriesIn [] trees, entry.tag = tag := by
  obtain ⟨tree, closed, -, listed⟩ := validates.defined
  obtain ⟨listed, field⟩ := List.mem_filter.mp listed
  obtain ⟨inside, found, rfl⟩ := List.mem_map.mp listed
  exact ⟨field, Tree.exists_entry_of_mem_innerIn (List.mem_filter.mp closed).1
    (List.mem_filter.mp found).1⟩

/-- A tag with the form around it is what a field was made from. -/
structure Mark.Makes (messages : Messages) (mark : Mark) (around : LiveTag) (tag : Node) :
    Prop where
  form : mark.form? = some around
  kind : tag.kind = mark.tag.kind
  head : ∃ id, mark.id? = some id ∧
    tag.head = mark.tag.head.ofField messages around.head.ofForm mark.tag.kind id

namespace Mark.Makes

variable {messages : Messages} {mark : Mark} {around : LiveTag} {tag : Node}

/-- Only some attributes of a field are not those that are written. -/
theorem attr? (makes : mark.Makes messages around tag) {key : String}
    (written : key ∉ ["x:pattern", "x:invalid-err", "x:required-err", "x:required", "name"]) :
    tag.head.attr? key = mark.tag.head.attr? key := by
  obtain ⟨id, -, head⟩ := makes.head
  simp only [List.mem_cons, List.not_mem_nil, or_false, not_or] at written
  obtain ⟨noPattern, noInvalid, noMessage, noRequired, noName⟩ := written
  rw [head, Head.attr?_ofField, if_neg noPattern, if_neg noInvalid, if_neg noMessage,
    if_neg noRequired, if_neg noName]

end Mark.Makes

/-- Every field of a form was made from a tag that is met in the text. -/
theorem Compiled.GrownFrom.exists_makes {setting : Setting} {text : String} {compiled : Compiled}
    {site : Site} (grown : compiled.GrownFrom setting text site) :
    ∃ walk, Walk.run setting (setting.tags text) = some walk ∧
      ∀ form tag validator, Form.Validates setting.config.messages site.trees form tag validator →
        ∃ mark ∈ walk.marks, ∃ around, mark.Makes setting.config.messages around tag ∧
          mark.name? = some validator.name := by
  obtain ⟨walk, ran, met⟩ := grown.walked
  refine ⟨walk, ran, ?_⟩
  intro form tag validator validates
  obtain ⟨field, entry, member, rfl⟩ := validates.exists_entry
  obtain ⟨mark, isMet, becomes⟩ := met entry member
  obtain ⟨around, id, inForm, given, head⟩ := becomes.field field
  have kind := TagKind.eq_of_bare becomes.kind field
  refine ⟨mark, isMet, around, ⟨inForm, kind, id, given, kind ▸ head⟩, ?_⟩
  rw [becomes.name?_eq field, validates.names.2]

section

variable {setting : Setting} {text : String} {compiled : Compiled} {site : Site} {form : Form}

/-- A form has no validators but those of its tags. -/
theorem Compiled.GrownFrom.exists_validates (grown : compiled.GrownFrom setting text site)
    (formed : Form.OfTrees setting.config.messages site.trees compiled.forms)
    (output : form ∈ compiled.forms) {name : String} (member : name ∈ form.fields) :
    ∃ tag validator, form.Validates setting.config.messages site.trees tag validator ∧
      validator.name = name := by
  obtain ⟨tree, closed, defined⟩ := exists_of_forall₂ (definedBy_of_grown grown formed).flip output
  rw [defined.names] at member
  obtain ⟨validator, isIn, same⟩ := List.mem_map.mp member
  obtain ⟨tag, listed, made⟩ := exists_of_forall₂ defined.validators.flip isIn
  exact ⟨tag, validator, ⟨⟨tree, closed, defined, listed⟩, isIn, made⟩, same⟩

/-- A form has at most one group of an id. -/
theorem Compiled.GrownFrom.nodup_groups (grown : compiled.GrownFrom setting text site)
    (formed : Form.OfTrees setting.config.messages site.trees compiled.forms)
    (output : form ∈ compiled.forms) : (form.groups.map Group.id).Nodup := by
  obtain ⟨tree, closed, defined⟩ := exists_of_forall₂ (definedBy_of_grown grown formed).flip output
  obtain ⟨forest, -, -, grows⟩ := grown.forest
  obtain ⟨more, adds⟩ := Forest.adds_of_grow grows
  have same : site.trees = more := adds.trees
  exact defined.nodup_groups (adds.distinct tree (same ▸ closed))

end

/-! ### Submissions -/

private theorem Dict.get?_foldl_insert {α : Type} {entries : List (String × α)} {key : String}
    {value : α} (distinct : (entries.map Prod.fst).Nodup) (dict : Dict α) :
    (entries.foldl (fun dict entry => dict.insert entry.1 entry.2) dict).get? key = some value ↔
      (key, value) ∈ entries ∨ key ∉ entries.map Prod.fst ∧ dict.get? key = some value := by
  induction entries generalizing dict with
  | nil => simp
  | cons first rest ih =>
    obtain ⟨absent, distinct⟩ := List.nodup_cons.mp distinct
    rw [List.foldl_cons, ih distinct, Dict.get?_insert]
    by_cases same : key = first.1
    · subst same
      have unknown : (first.1, value) ∉ rest := by
        intro member
        exact absent (List.mem_map.mpr ⟨_, member, rfl⟩)
      simp [absent, unknown, Prod.ext_iff, eq_comm]
    · simp [same, Prod.ext_iff]

/-- With distinct keys every entry counts. -/
theorem Dict.get?_ofList {α : Type} {entries : List (String × α)} {key : String} {value : α}
    (distinct : (entries.map Prod.fst).Nodup) :
    (ofList entries).get? key = some value ↔ (key, value) ∈ entries := by
  rw [ofList, get?_foldl_insert distinct]
  exact or_iff_left fun none => nomatch none.2

/-- Whether a form defines a group of this id whose condition holds of these values. -/
def Form.groupHolds (form : Form) (values : Dict Value) (id : String) : Bool :=
  form.groups.any fun group => group.id == id && (group.condition.eval (Scope.ofDict values)).truthy

namespace Submission

/-- Which groups hold is settled by what is submitted and the initial values. -/
theorem groupHolds_new {form : Form} (distinct : (form.groups.map Group.id).Nodup)
    (request : Request) (initial : Dict Value) :
    (new form request initial).surroundings.groupHolds
      = form.groupHolds (mergeValues initial request.params) := by
  funext id
  have keys : ((form.groups.map fun group => (group.id,
      (group.condition.eval (Scope.ofDict (mergeValues initial request.params))).truthy)).map
        Prod.fst).Nodup := by
    rw [List.map_map]
    exact distinct
  rw [Bool.eq_iff_iff]
  -- Groups are looked up by their ids, which finds each of them where no id is given twice.
  have found : (new form request initial).surroundings.groupHolds id = true ↔
      (new form request initial).surroundings.groups.get? id = some true := by
    unfold Surroundings.groupHolds Dict.getD
    cases (new form request initial).surroundings.groups.get? id with
    | none => simp
    | some holds => simp
  rw [found, Form.groupHolds, List.any_eq_true]
  refine (Dict.get?_ofList keys).trans ?_
  simp [List.mem_map, Prod.ext_iff]

end Submission

theorem Json.string?_eq_some {value : Value} {text : String} :
    string? value = some text ↔ value = .string text := by
  cases value <;> simp [string?]

theorem eq_ok_of_map_some {ε α : Type} {run : Except ε α} {result : α}
    (made : run.map some = .ok (some result)) : run = .ok result := by
  obtain ⟨other, done, same⟩ := map_eq_ok.mp made
  rw [done, Option.some.inj same]

section

variable {messages : Messages} {trees : List Tree} {form : Form} {tag : Node}
  {validator : FieldValidator}

/-- What a validated form holds of a field is what its validator leaves. -/
theorem Form.Validates.record_validate (validates : form.Validates messages trees tag validator)
    (distinct : form.fields.Nodup) (request : Request) (initial : Dict Value) :
    (Submission.new form request initial).validate.record validator.name
      = validator.run (Submission.new form request initial).surroundings
          ⟨(Submission.mergeValues initial request.params).get? validator.name, none⟩ := by
  rw [validates.names.1] at distinct
  exact Submission.record_validate distinct validates.member

theorem Form.Validates.error_validate (validates : form.Validates messages trees tag validator)
    (distinct : form.fields.Nodup) (request : Request) (initial : Dict Value) :
    (Submission.new form request initial).validate.error? validator.name
      = (validator.run (Submission.new form request initial).surroundings
          ⟨(Submission.mergeValues initial request.params).get? validator.name, none⟩).error :=
  congrArg FieldRecord.error (validates.record_validate distinct request initial)

theorem Form.Validates.get?_validate (validates : form.Validates messages trees tag validator)
    (distinct : form.fields.Nodup) (request : Request) (initial : Dict Value) :
    (Submission.new form request initial).validate.get? validator.name
      = (validator.run (Submission.new form request initial).surroundings
          ⟨(Submission.mergeValues initial request.params).get? validator.name, none⟩).value :=
  congrArg FieldRecord.value (validates.record_validate distinct request initial)

end

/-- A form finds no fault with a field it does not have. -/
theorem Submission.error_validate_of_not_mem {form : Form} {name : String}
    (unknown : name ∉ form.validators.map FieldValidator.name) (request : Request)
    (initial : Dict Value) : (new form request initial).validate.error? name = none :=
  congrArg FieldRecord.error (record_foldl_of_not_mem unknown)

end Stencil
