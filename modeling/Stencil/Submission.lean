import Stencil.Validation.Run

/-!
# Validating a submission

The validators run one after the other on the submission. Each only sees and changes its
own field, so one field that fails leaves the others alone.
-/
namespace Stencil

namespace Submission

def validateField (submission : Submission) (validator : FieldValidator) : Submission :=
  validator.runOn (submission.addField validator.name)

/-- Validate all fields, also after failures. Errors that were there before stay. -/
def validate (submission : Submission) : Submission :=
  submission.form.validators.foldl validateField submission

/-- What base types do after the validation of the fields. -/
abbrev Bases := Dict (Submission → Submission)

/-- Validate with the extra validation of the base type the form names. -/
def validateWith (bases : Bases) (submission : Submission) : Submission :=
  match submission.form.base.bind bases.get? with
  | some extra => extra submission.validate
  | none => submission.validate

end Submission

end Stencil
