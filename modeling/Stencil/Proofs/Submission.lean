import Stencil.Proofs.Fields.Record
import Stencil.Proofs.Forms

/-!
# Validating a submission

Where the fields of a form have distinct names, the validation of one does not depend on
the others: what is stored of a field afterwards is what its validator makes of what was
stored before.
-/
namespace Stencil

namespace Submission

/-- Submitted values take the place of initial ones. -/
theorem get?_mergeValues (initial submitted : Dict Value) (key : String) :
    (mergeValues initial submitted).get? key = (submitted.get? key).or (initial.get? key) := by
  obtain ⟨entries, ascending⟩ := submitted
  change (entries.foldl _ initial).get? key = (Dict.lookup key entries).or _
  induction entries generalizing initial with
  | nil => rfl
  | cons first rest ih =>
    obtain ⟨below, later⟩ := List.pairwise_cons.mp ascending
    rw [List.foldl_cons, ih _ later, Dict.get?_insert, Dict.lookup]
    by_cases same : key = first.1
    · -- The keys of what follows are larger.
      have absent : Dict.lookup key rest = none :=
        Dict.lookup_eq_none_of_below (same ▸ below)
      simp [same, same ▸ absent]
    · simp [same, Ne.symm same]

variable {submission : Submission}

private theorem record_addField (name other : String) :
    (submission.addField name).record other = submission.record other := by
  unfold addField
  split <;> rfl

private theorem surroundings_addField (name : String) :
    (submission.addField name).surroundings = submission.surroundings := by
  unfold addField
  split <;> rfl

/-- To validate a field puts another record in place. -/
theorem validateField_eq (validator : FieldValidator) :
    submission.validateField validator
      = (submission.addField validator.name).setRecord validator.name
          (validator.run submission.surroundings (submission.record validator.name)) := by
  rw [validateField, validator.runOn_eq, surroundings_addField, record_addField]

/-- A validator changes what is stored of its own field only. -/
theorem record_validateField (validator : FieldValidator) (name : String) :
    (submission.validateField validator).record name =
      if name = validator.name then
        validator.run submission.surroundings (submission.record validator.name)
      else submission.record name := by
  rw [validateField_eq, record_setRecord, record_addField]

theorem surroundings_validateField (validator : FieldValidator) :
    (submission.validateField validator).surroundings = submission.surroundings := by
  rw [validateField_eq, surroundings_setRecord, surroundings_addField]

theorem record_foldl_of_not_mem {validators : List FieldValidator} {name : String}
    (absent : name ∉ validators.map FieldValidator.name) :
    (validators.foldl validateField submission).record name = submission.record name := by
  induction validators generalizing submission with
  | nil => rfl
  | cons validator rest ih =>
    rw [List.map_cons, List.mem_cons, not_or] at absent
    rw [List.foldl_cons, ih absent.2, record_validateField, if_neg absent.1]

private theorem record_foldl_of_mem {validators : List FieldValidator} {validator : FieldValidator}
    (distinct : (validators.map FieldValidator.name).Nodup) (member : validator ∈ validators) :
    (validators.foldl validateField submission).record validator.name
      = validator.run submission.surroundings (submission.record validator.name) := by
  induction validators generalizing submission with
  | nil => cases member
  | cons first rest ih =>
    rw [List.map_cons, List.nodup_cons] at distinct
    rw [List.foldl_cons]
    rcases List.mem_cons.mp member with rfl | later
    · rw [record_foldl_of_not_mem distinct.1, record_validateField, if_pos rfl]
    · have other : validator.name ≠ first.name := by
        intro same
        exact distinct.1 (same ▸ List.mem_map_of_mem later)
      rw [ih distinct.2 later, surroundings_validateField, record_validateField, if_neg other]

/-- With distinct names every field is validated for itself. -/
theorem record_validate {validator : FieldValidator}
    (distinct : (submission.form.validators.map FieldValidator.name).Nodup)
    (member : validator ∈ submission.form.validators) :
    submission.validate.record validator.name
      = validator.run submission.surroundings (submission.record validator.name) :=
  record_foldl_of_mem distinct member

@[simp]
theorem request_surroundings_new (form : Form) (request : Request) (initial : Dict Value) :
    (new form request initial).surroundings.request = request := rfl

/-- A field that was submitted starts with the submitted value and without an error. -/
theorem record_new {form : Form} {request : Request} {initial : Dict Value} {name : String}
    {value : Value} (submitted : request.params.get? name = some value) :
    (new form request initial).record name = ⟨some value, none⟩ := by
  have merged : (mergeValues initial request.params).get? name = some value := by
    rw [get?_mergeValues, submitted]
    rfl
  unfold Submission.record new
  rw [merged]
  rfl

end Submission

/-- What is stored of a submitted field after the validation of a form that has it. -/
theorem Form.Validates.record_of_submitted {messages : Messages} {trees : List Tree} {form : Form}
    {tag : Node} {validator : FieldValidator}
    (validates : form.Validates messages trees tag validator) (distinct : form.fields.Nodup)
    {request : Request} {value : Value}
    (submitted : request.params.get? tag.head.fieldName = some value) (initial : Dict Value) :
    (Submission.new form request initial).validate.record tag.head.fieldName
      = validator.run (Submission.new form request initial).surroundings ⟨some value, none⟩ := by
  obtain ⟨names, name⟩ := validates.names
  rw [names] at distinct
  have alone : (Submission.new form request initial).validate.record validator.name = _ :=
    Submission.record_validate distinct validates.member
  rwa [name, Submission.record_new submitted] at alone

end Stencil
