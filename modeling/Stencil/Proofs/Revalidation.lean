import Stencil.Proofs.Fields.Prepared
import Stencil.Proofs.Independence

/-!
# Validating twice

To validate a submission once more changes nothing. What a field stores is not changed by
its initializers, so its rules look at the same value and say the same. A checkbox stores
what none of its initializers has seen, which they must therefore leave alone if they look
at the value at all.
-/
namespace Stencil

/-! ### Fields -/

namespace FieldValidator

/-- That the rule of a checkbox is the only one of its field, and its text for off one that
the initializers leave as it is, if they look at the value at all. -/
def KeepsOff (validator : FieldValidator) (request : Request) : Prop :=
  ∀ on off, .checkboxOnOff on off ∈ validator.rules →
    validator.rules = [.checkboxOnOff on off] ∧
      (Initializer.readValue validator.initializers →
        (validator.prepared request (some (.string off))).stored = some (.string off))

/-- A checkbox that was not checked is not checked once more. -/
theorem run_off {validator : FieldValidator} {surroundings : Surroundings} {on off : String}
    (only : validator.rules = [.checkboxOnOff on off])
    (kept : Initializer.readValue validator.initializers →
      (validator.prepared surroundings.request (some (.string off))).stored = some (.string off))
    {stored : Option Value}
    (unchecked : (validator.prepared surroundings.request stored).text ≠ on.toList)
    (error : Option String) :
    validator.run surroundings ⟨some (.string off), error⟩ = ⟨some (.string off), error⟩ := by
  unfold run
  dsimp only
  rw [only, firstVerdict_cons, Rule.check]
  by_cases checked :
      (validator.prepared surroundings.request (some (.string off))).text = on.toList
  · -- Then the initializers have seen the text for off, which is also that for on.
    have read : Initializer.readValue validator.initializers := by
      by_contra unread
      rw [Bool.not_eq_true] at unread
      exact unchecked ((text_prepared unread _ _ _).trans checked)
    rw [if_pos checked]
    exact congrArg (FieldRecord.mk · error) (kept read)
  · rw [if_neg checked]

/-- What a validator leaves of a field it leaves once more. -/
theorem run_again {validator : FieldValidator} {surroundings : Surroundings}
    (keeps : validator.KeepsOff surroundings.request) (record : FieldRecord) :
    validator.run surroundings (validator.run surroundings record)
      = validator.run surroundings record := by
  have again := validator.prepared_again surroundings.request record.value
  -- A verdict that replaces the value comes from a checkbox, any other keeps what is prepared.
  cases said : firstVerdict surroundings
      (validator.prepared surroundings.request record.value) validator.rules with
  | replaced value =>
    obtain ⟨rule, member, checked⟩ := exists_of_firstVerdict said nofun
    obtain ⟨on, off, rfl, rfl⟩ := Rule.replaced_of_check checked
    obtain ⟨only, kept⟩ := keeps on off member
    have first : validator.run surroundings record = ⟨some (.string off), record.error⟩ := by
      unfold run
      dsimp only
      rw [said]
    -- The value was not the one for on, or there would have been nothing to replace.
    have unchecked :
        (validator.prepared surroundings.request record.value).text ≠ on.toList := by
      intro same
      rw [Rule.check, if_pos same] at checked
      cases checked
    rw [first]
    exact run_off only kept unchecked record.error
  | _ =>
    unfold run
    dsimp only
    rw [said]
    dsimp only
    rw [again, said]

end FieldValidator

/-! ### Submissions -/

namespace Submission

variable {submission : Submission}

private theorem form_foldl (validators : List FieldValidator) (submission : Submission) :
    (validators.foldl validateField submission).form = submission.form := by
  induction validators generalizing submission with
  | nil => rfl
  | cons validator rest ih =>
    have here : (submission.validateField validator).form = submission.form := by
      rw [validateField_eq]
      unfold setRecord addField
      split
      · rfl
      · rfl
    rw [List.foldl_cons, ih, here]

/-- A field that is listed, and of which its validator leaves what there is. -/
theorem validateField_eq_self {validator : FieldValidator}
    (listed : validator.name ∈ submission.fields)
    (same : validator.run submission.surroundings (submission.record validator.name)
      = submission.record validator.name) : submission.validateField validator = submission := by
  have known : submission.addField validator.name = submission := by
    rw [addField, List.contains_iff_mem.mpr listed]
    rfl
  rw [validateField_eq, known, same, setRecord_record]

/-- A validated submission, if its fields have distinct names, is validated: its values,
errors and fields stay as they are, and so does the result. -/
theorem validate_again
    (distinct : (submission.form.validators.map FieldValidator.name).Nodup)
    (keeps : ∀ validator ∈ submission.form.validators, validator.KeepsOff submission.request) :
    submission.validate.validate = submission.validate := by
  have form : submission.validate.form = submission.form := form_foldl _ submission
  have surroundings : submission.validate.surroundings = submission.surroundings :=
    surroundings_foldl _ submission
  change submission.validate.form.validators.foldl validateField submission.validate
    = submission.validate
  rw [form]
  apply foldl_eq_self
  intro validator member
  apply validateField_eq_self
  · exact mem_fields_foldl.mpr (.inl (List.mem_map_of_mem member))
  · rw [surroundings, record_validate distinct member]
    exact FieldValidator.run_again (keeps validator member) _

/-- A text with markup in it, and a checkbox that was not checked. -/
theorem validate_again_pair :
    let submission : Submission := {
      form := {
        typeName := "PairFormModel", id := "pair", base := none, fields := ["a"], groups := []
        validators := [
          ⟨"a", [.getValue, .removeChars "-", .stripMarkup], [.maxLength 2 "long"]⟩,
          ⟨"b", [.getValue, .ensureString, .stripMarkup], [.checkboxOnOff "yes" "no"]⟩] }
      request := {}
      fields := ["a"]
      values := .ofList [("a", .string "1-2<-3>4")]
      errors := .empty
      groups := .empty }
    (submission.form.validators.map FieldValidator.name).Nodup ∧
      (∀ validator ∈ submission.form.validators, validator.KeepsOff submission.request) ∧
      submission.validate.errors.entries = [("a", "long")] ∧
      submission.validate.validate = submission.validate := by
  intro submission
  have distinct : (submission.form.validators.map FieldValidator.name).Nodup := by decide
  have keeps : ∀ validator ∈ submission.form.validators,
      validator.KeepsOff submission.request := by
    intro validator member on off isRule
    rcases List.mem_pair.mp member with rfl | rfl
    · simp at isRule
    · obtain ⟨rfl, rfl⟩ : on = "yes" ∧ off = "no" := by simpa using isRule
      exact ⟨rfl, fun _ => rfl⟩
  exact ⟨distinct, keeps, by decide, validate_again distinct keeps⟩

end Submission

end Stencil
