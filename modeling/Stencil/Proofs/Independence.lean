import Stencil.Proofs.Submission

/-!
# Fields are validated independently

Where the validators of a form have distinct names, validation goes field by field: the
order of the validators does not matter, and what becomes of a field does not depend on
what becomes of the others.
-/
namespace Stencil

theorem Dict.isEmpty_iff {α : Type} {dict : Dict α} :
    dict.isEmpty ↔ ∀ key, dict.get? key = none := by
  obtain ⟨entries, ascending⟩ := dict
  cases entries with
  | nil => simp [isEmpty, get?, lookup]
  | cons first rest =>
    obtain ⟨key, value⟩ := first
    have found : lookup key ((key, value) :: rest) = some value := by simp [lookup]
    constructor
    · intro contrary
      cases contrary
    · intro absent
      exact absurd (found.symm.trans (absent key)) (by simp)

namespace Submission

/-- The same state, with other validators in the form. -/
def withValidators (submission : Submission) (validators : List FieldValidator) : Submission :=
  { submission with form := { submission.form with validators } }

/-- What it means to validate field by field. -/
structure FieldByField (before : Submission) : Prop where
  /-- A field becomes what its validator makes of it where it is the only one. -/
  alone : ∀ validator ∈ before.form.validators, before.validate.record validator.name
    = (before.withValidators [validator]).validate.record validator.name
  /-- Values and errors that are not of a validated field stay as they are. -/
  others : ∀ name ∉ before.form.validators.map FieldValidator.name,
    before.validate.record name = before.record name
  request : before.validate.request = before.request
  groups : before.validate.groups = before.groups
  listed : ∀ validator ∈ before.form.validators, validator.name ∈ before.validate.fields
  result : before.validate.isValid ↔ ∀ name, before.validate.error? name = none
  /-- The order of the validators does not matter. -/
  order : ∀ validators, validators.Perm before.form.validators →
    (before.withValidators validators).validate.values = before.validate.values ∧
      (before.withValidators validators).validate.errors = before.validate.errors ∧
      (before.withValidators validators).validate.isValid = before.validate.isValid
  /-- Whatever the other fields hold, and whatever validators they have, a field becomes
  the same. -/
  apart : ∀ other : Submission, other.surroundings = before.surroundings →
    (other.form.validators.map FieldValidator.name).Nodup →
    ∀ validator ∈ before.form.validators, validator ∈ other.form.validators →
      other.record validator.name = before.record validator.name →
      other.validate.record validator.name = before.validate.record validator.name

variable {submission before : Submission}

theorem surroundings_foldl (validators : List FieldValidator) (submission : Submission) :
    (validators.foldl validateField submission).surroundings = submission.surroundings := by
  induction validators generalizing submission with
  | nil => rfl
  | cons validator rest ih =>
    rw [List.foldl_cons, ih, surroundings_validateField]

private theorem mem_fields_addField {name other : String} :
    other ∈ (submission.addField name).fields ↔ other = name ∨ other ∈ submission.fields := by
  unfold addField
  split
  · next present =>
    have member : name ∈ submission.fields := by simpa using present
    constructor
    · exact .inr
    · rintro (rfl | listed)
      · exact member
      · exact listed
  · simp [or_comm]

/-- Validation lists the fields it validates. -/
theorem mem_fields_foldl {validators : List FieldValidator} {name : String} :
    name ∈ (validators.foldl validateField submission).fields ↔
      name ∈ validators.map FieldValidator.name ∨ name ∈ submission.fields := by
  induction validators generalizing submission with
  | nil => simp
  | cons validator rest ih =>
    have here : (submission.validateField validator).fields
        = (submission.addField validator.name).fields := by
      rw [validateField_eq]
      rfl
    rw [List.foldl_cons, ih, here, mem_fields_addField, List.map_cons, List.mem_cons]
    tauto

/-- The order in which fields are validated does not matter. -/
theorem record_validate_perm (distinct : (before.form.validators.map FieldValidator.name).Nodup)
    {validators : List FieldValidator} (permuted : validators.Perm before.form.validators)
    (name : String) :
    (before.withValidators validators).validate.record name = before.validate.record name := by
  have distinct' : (validators.map FieldValidator.name).Nodup :=
    (permuted.map _).nodup_iff.mpr distinct
  -- In either order a field is what its only validator makes of the state before.
  by_cases member : name ∈ before.form.validators.map FieldValidator.name
  · obtain ⟨validator, listed, rfl⟩ := List.mem_map.mp member
    have moved : validator ∈ (before.withValidators validators).form.validators :=
      permuted.mem_iff.mpr listed
    rw [record_validate distinct listed]
    exact record_validate distinct' moved
  · have moved : name ∉ validators.map FieldValidator.name := by
      rwa [(permuted.map _).mem_iff]
    have left : before.validate.record name = before.record name :=
      record_foldl_of_not_mem member
    rw [left]
    exact record_foldl_of_not_mem moved

/-- Fields with distinct names are validated independently. -/
theorem validate_fieldByField
    (distinct : (submission.form.validators.map FieldValidator.name).Nodup) :
    submission.FieldByField where
  alone validator member := by
    rw [record_validate distinct member]
    have single : validator ∈ (submission.withValidators [validator]).form.validators :=
      List.mem_singleton_self validator
    have distinct' : ([validator].map FieldValidator.name).Nodup := by simp
    exact (record_validate distinct' single).symm
  others name absent := record_foldl_of_not_mem absent
  request := congrArg Surroundings.request (surroundings_foldl _ submission)
  groups := congrArg Surroundings.groups (surroundings_foldl _ submission)
  listed validator member := mem_fields_foldl.mpr (.inl (List.mem_map_of_mem member))
  result := Dict.isEmpty_iff
  order validators permuted := by
    -- Dictionaries that hold the same under every key are equal, since they are sorted.
    have same := record_validate_perm distinct permuted
    have values : (submission.withValidators validators).validate.values
        = submission.validate.values :=
      Dict.ext_get? fun name => congrArg FieldRecord.value (same name)
    have errors : (submission.withValidators validators).validate.errors
        = submission.validate.errors :=
      Dict.ext_get? fun name => congrArg FieldRecord.error (same name)
    exact ⟨values, errors, congrArg Dict.isEmpty errors⟩
  apart other surroundings distinct' validator member member' same := by
    rw [record_validate distinct member, record_validate distinct' member', surroundings, same]

/-- A field that fails, and one behind it that does not. -/
theorem validate_fieldByField_pair :
    let submission : Submission := {
      form := {
        typeName := "PairFormModel", id := "pair", base := none, fields := ["a"], groups := []
        validators := [
          ⟨"a", [.getValue, .ensureString], [.required true none "missing"]⟩,
          ⟨"b", [.getValue, .ensureString, .removeChars "-"], [.maxLength 2 "long"]⟩] }
      request := {}
      fields := ["a"]
      values := .ofList [("a", .string ""), ("b", .string "1-2")]
      errors := .empty
      groups := .empty }
    (submission.form.validators.map FieldValidator.name).Nodup ∧ submission.FieldByField ∧
      submission.validate.errors.entries = [("a", "missing")] ∧
      submission.validate.fields = ["a", "b"] := by
  intro submission
  have distinct : (submission.form.validators.map FieldValidator.name).Nodup := by decide
  exact ⟨distinct, validate_fieldByField distinct, by decide, by decide⟩

end Submission

end Stencil
