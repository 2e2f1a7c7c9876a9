import Stencil.Submission

/-!
# What a validator does to its field

A validator works on the whole submission, but every initializer and every rule reads and
writes the value and the error of its own field only. So what a validator does is a
function of what is stored of its field (`FieldValidator.run`), the request and the groups,
and the submission stays as it is but for that field (`runOn_eq`).
-/
namespace Stencil

/-! ### One field for itself -/

/-- What a validation reads besides its field. -/
structure Surroundings where
  request : Request
  groups : Dict Bool

/-- Groups that are not known do not hold. -/
def Surroundings.groupHolds (surroundings : Surroundings) (id : String) : Bool :=
  surroundings.groups.getD id false

/-- What is stored of a field. -/
structure FieldRecord where
  value : Option Value
  error : Option String

/-- A field while it is validated. -/
structure FieldState where
  /-- The value at hand. -/
  value : Value := .null
  upload : Option Upload := none
  /-- The value that will be stored. -/
  stored : Option Value

namespace FieldState

/-- The text at hand; anything else counts as empty. -/
def text (state : FieldState) : List Char :=
  match state.value with
  | .string s => s.toList
  | _ => []

def replace (state : FieldState) (value : Value) : FieldState :=
  { state with value, stored := some value }

def changeText (state : FieldState) (change : List Char → List Char) : FieldState :=
  state.replace (.string (String.ofList (change state.text)))

end FieldState

def Initializer.apply (request : Request) (name : String) (state : FieldState) :
    Initializer → FieldState
  | .getValue => { state with value := state.stored.getD .null }
  | .ensureString =>
    match state.value with
    | .string _ => state
    | _ => state.replace (.string "")
  | .ensureList =>
    match state.value with
    | .array _ => state
    | _ => state.replace (.array [])
  | .stripControl keepWhitespace => state.changeText (Text.stripControl keepWhitespace)
  | .stripMarkup => state.changeText Text.stripMarkup
  | .removeChars chars => state.changeText (Text.removeChars chars.toList)
  | .keepChars chars => state.changeText (Text.keepChars chars.toList)
  | .getFile => { state with upload := request.files.get? name }

/-- What a rule says about a field. -/
inductive Verdict where
  /-- The rule does not match. -/
  | passed
  /-- The rule matches, and that is no error. -/
  | settled
  | failed (message : String)
  /-- The rule matches and puts another value in place. -/
  | replaced (value : Value)

/-- An error if the condition holds. -/
def Verdict.failedIf (wrong : Bool) (message : String) : Verdict :=
  if wrong then .failed message else .passed

/-- Whether something that is missing is an error. -/
def missing (surroundings : Surroundings) (demanded : Bool) (group : Option String)
    (message : String) : Verdict :=
  if demanded && group.all surroundings.groupHolds then .failed message else .settled

/-- The size of an upload; none at all has size zero. -/
def uploadSize (state : FieldState) : Nat := (state.upload.map Upload.size).getD 0

def Rule.check (surroundings : Surroundings) (state : FieldState) : Rule → Verdict
  | .required demanded group message =>
    if isEmptyValue state.value then missing surroundings demanded group message else .passed
  | .minLength min message => .failedIf (state.text.length < min) message
  | .maxLength max message => .failedIf (max < state.text.length) message
  | .number message => .failedIf (state.text.isEmpty || !state.text.all Char.isDigit) message
  | .minSize min message => .failedIf ((sizeOfText state.text).lt min) message
  | .maxSize max message => .failedIf (max.lt (sizeOfText state.text)) message
  | .pattern written message =>
    match Pattern.regex? written with
    | some regex => .failedIf (!regex.isMatch state.text) message
    | none => .failed message
  | .checkboxOnOff on off =>
    if state.text = on.toList then .passed else .replaced (.string off)
  | .inOptions source message =>
    .failedIf (!source.contains surroundings.request (String.ofList state.text)) message
  | .allInOptions source message =>
    let options := source.resolve surroundings.request
    match state.value with
    | .array items => .failedIf (!items.all (isOption options)) message
    | _ => .passed
  | .fileRequired demanded group message =>
    if state.upload.all fun upload => upload.status == .noFile then
      missing surroundings demanded group message
    else .passed
  | .uploadError message sizeMessage =>
    match state.upload.map Upload.status with
    | some .cantWrite | some .extension | some .noTmpDir | some .partialUpload => .failed message
    | some .iniSize => .failed sizeMessage
    | _ => .passed
  | .minFileSize min message => .failedIf (uploadSize state < min) message
  | .maxFileSize max message => .failedIf (max < uploadSize state) message

/-- What the first rule that matches says. -/
def firstVerdict (surroundings : Surroundings) (state : FieldState) : List Rule → Verdict
  | [] => .passed
  | rule :: rest =>
    match rule.check surroundings state with
    | .passed => firstVerdict surroundings state rest
    | verdict => verdict

namespace FieldValidator

def prepared (validator : FieldValidator) (request : Request) (stored : Option Value) :
    FieldState :=
  validator.initializers.foldl (Initializer.apply request validator.name) { stored }

/-- Value and error of the field afterwards, at most one new error among them. -/
def run (validator : FieldValidator) (surroundings : Surroundings) (record : FieldRecord) :
    FieldRecord :=
  let state := validator.prepared surroundings.request record.value
  match firstVerdict surroundings state validator.rules with
  | .passed | .settled => ⟨state.stored, record.error⟩
  | .failed message => ⟨state.stored, some message⟩
  | .replaced value => ⟨some value, record.error⟩

end FieldValidator

/-! ### The field in its submission -/

private theorem Dict.put_get? {α : Type} (dict : Dict α) (key : String) :
    dict.put key (dict.get? key) = dict := by
  apply Dict.ext_get?
  intro other
  rw [get?_put]
  by_cases same : other = key
  · rw [if_pos same, same]
  · rw [if_neg same]

private theorem Dict.put_put {α : Type} (dict : Dict α) (key : String) (first second : Option α) :
    (dict.put key first).put key second = dict.put key second := by
  apply Dict.ext_get?
  intro other
  rw [get?_put, get?_put, get?_put]
  by_cases same : other = key
  · rw [if_pos same, if_pos same]
  · rw [if_neg same, if_neg same, if_neg same]

namespace Submission

def surroundings (submission : Submission) : Surroundings :=
  ⟨submission.request, submission.groups⟩

/-- What is stored of a field. -/
def record (submission : Submission) (name : String) : FieldRecord :=
  ⟨submission.values.get? name, submission.errors.get? name⟩

def setRecord (submission : Submission) (name : String) (record : FieldRecord) : Submission :=
  { submission with
    values := submission.values.put name record.value
    errors := submission.errors.put name record.error }

variable (submission : Submission) (name : String)

/-- A field whose record is put back as it is leaves the submission as it is. -/
theorem setRecord_record : submission.setRecord name (submission.record name) = submission := by
  rw [setRecord, record]
  dsimp only
  rw [Dict.put_get?, Dict.put_get?]

private theorem setRecord_setRecord (first second : FieldRecord) :
    (submission.setRecord name first).setRecord name second
      = submission.setRecord name second := by
  simp only [setRecord, Dict.put_put]

private theorem set_eq_setRecord (value : Value) :
    submission.set name value
      = submission.setRecord name ⟨some value, (submission.record name).error⟩ := by
  rw [setRecord, record]
  dsimp only
  rw [Dict.put_get?]
  rfl

private theorem setError_eq_setRecord (message : String) :
    submission.setError name message
      = submission.setRecord name ⟨(submission.record name).value, some message⟩ := by
  rw [setRecord, record]
  dsimp only
  rw [Dict.put_get?]
  rfl

theorem record_setRecord (other : String) (record : FieldRecord) :
    (submission.setRecord name record).record other
      = if other = name then record else submission.record other := by
  unfold setRecord Submission.record
  by_cases same : other = name
  · simp [same]
  · simp [same]

@[simp]
theorem surroundings_setRecord (record : FieldRecord) :
    (submission.setRecord name record).surroundings = submission.surroundings := rfl

end Submission

/-- What a verdict leaves of a record. -/
def Verdict.leave (record : FieldRecord) : Verdict → FieldRecord
  | .passed | .settled => record
  | .failed message => ⟨record.value, some message⟩
  | .replaced value => ⟨some value, record.error⟩

private theorem FieldValidator.run_eq_leave (validator : FieldValidator)
    (surroundings : Surroundings) (record : FieldRecord) :
    let prepared := validator.prepared surroundings.request record.value
    validator.run surroundings record
      = (firstVerdict surroundings prepared validator.rules).leave
          ⟨prepared.stored, record.error⟩ := by
  intro prepared
  unfold run
  dsimp only
  cases firstVerdict surroundings prepared validator.rules with
  | _ => rfl

namespace Underway

/-- What is at hand of a field, with what is stored. -/
def field (state : Underway) (name : String) : FieldState where
  value := state.value
  upload := state.upload
  stored := (state.submission.record name).value

/-- The same submission, with other things at hand and stored of one field. -/
def withField (state : Underway) (name : String) (field : FieldState) : Underway where
  submission := state.submission.setRecord name
    ⟨field.stored, (state.submission.record name).error⟩
  value := field.value
  upload := field.upload

variable (state : Underway) (name : String)

@[simp]
theorem field_withField (field : FieldState) : (state.withField name field).field name = field := by
  rw [Underway.field, withField, Submission.record_setRecord, if_pos rfl]

private theorem withField_withField (first second : FieldState) :
    (state.withField name first).withField name second = state.withField name second := by
  simp only [withField, Submission.setRecord_setRecord, Submission.record_setRecord, if_pos]

/-- Where the same is stored, only what is at hand becomes another. -/
theorem withField_of_stored {field : FieldState}
    (same : field.stored = (state.field name).stored) :
    state.withField name field = { state with value := field.value, upload := field.upload } := by
  have kept : state.submission.setRecord name
      ⟨field.stored, (state.submission.record name).error⟩ = state.submission := by
    rw [same]
    exact state.submission.setRecord_record name
  rw [withField, kept]

private theorem withField_field : state.withField name (state.field name) = state :=
  state.withField_of_stored name rfl

private theorem replace_eq (value : Value) :
    state.replace name value = state.withField name ((state.field name).replace value) := by
  rw [replace, Submission.set_eq_setRecord]
  rfl

private theorem changeText_eq (change : List Char → List Char) :
    state.changeText name change
      = state.withField name ((state.field name).changeText change) :=
  state.replace_eq name _

/-- What a verdict on its field means for a submission. -/
def follow (state : Underway) (name : String) : Verdict → Bool × Underway
  | .passed => (false, state)
  | .settled => (true, state)
  | .failed message => (true, state.fail name message)
  | .replaced value => (true, state.replace name value)

/-- What is stored of the field once a verdict is followed. -/
theorem submission_follow (verdict : Verdict) :
    (state.follow name verdict).2.submission
      = state.submission.setRecord name (verdict.leave (state.submission.record name)) := by
  cases verdict with
  | passed | settled => exact (state.submission.setRecord_record name).symm
  | failed message => exact state.submission.setError_eq_setRecord name message
  | replaced value => exact state.submission.set_eq_setRecord name value

private theorem failIf_eq (wrong : Bool) (message : String) :
    state.failIf name wrong message = state.follow name (.failedIf wrong message) := by
  cases wrong with
  | true => rfl
  | false => rfl

private theorem failMissing_eq (demanded : Bool) (group : Option String) (message : String) :
    state.failMissing name demanded group message
      = state.follow name (missing state.submission.surroundings demanded group message) := by
  unfold failMissing missing
  change (if (demanded && group.all state.submission.surroundings.groupHolds) = true then _ else _)
    = _
  split
  · rfl
  · rfl

end Underway

section

variable (state : Underway) (name : String)

/-- Every initializer reads and writes its own field only. -/
theorem Initializer.prepare_eq (initializer : Initializer) :
    initializer.prepare name state
      = state.withField name
          (initializer.apply state.submission.request name (state.field name)) := by
  cases initializer with
  | getValue =>
    -- Nothing is written, only the value at hand is another.
    symm
    apply state.withField_of_stored name
    rfl
  | getFile =>
    symm
    apply state.withField_of_stored name
    rfl
  | ensureString =>
    -- A text stays, anything else is replaced.
    obtain ⟨submission, value, upload⟩ := state
    cases value with
    | string s => exact (Underway.withField_field _ name).symm
    | _ => exact Underway.replace_eq _ name _
  | ensureList =>
    obtain ⟨submission, value, upload⟩ := state
    cases value with
    | array items => exact (Underway.withField_field _ name).symm
    | _ => exact Underway.replace_eq _ name _
  | _ => exact state.changeText_eq name _

/-- Every rule reads its own field only, and writes no other. -/
theorem Rule.enforce_eq (rule : Rule) :
    rule.enforce name state
      = state.follow name (rule.check state.submission.surroundings (state.field name)) := by
  cases rule with
  | required | fileRequired =>
    rw [enforce, check, apply_ite (state.follow name), ← state.failMissing_eq]
    rfl
  | checkboxOnOff =>
    rw [enforce, check, apply_ite (state.follow name)]
    rfl
  | pattern written message =>
    -- An expression that cannot be read counts as one that nothing matches.
    rw [enforce, check]
    cases Pattern.regex? written with
    | some regex => exact state.failIf_eq name _ _
    | none => rfl
  | allInOptions source message =>
    obtain ⟨submission, value, upload⟩ := state
    cases value with
    | array items => exact Underway.failIf_eq _ name _ _
    | _ => rfl
  | uploadError message sizeMessage =>
    obtain ⟨submission, value, upload⟩ := state
    cases upload with
    | none => rfl
    | some upload =>
      obtain ⟨status, size, clientName⟩ := upload
      cases status with
      | _ => rfl
  | _ => exact state.failIf_eq name _ _

private theorem Initializer.foldl_prepare (initializers : List Initializer) :
    initializers.foldl (prepare name) state
      = state.withField name
          (initializers.foldl (apply state.submission.request name) (state.field name)) := by
  induction initializers generalizing state with
  | nil => exact (state.withField_field name).symm
  | cons first rest ih =>
    -- What was put in place first is not read any more, but for the field itself.
    have request (field : FieldState) :
        (state.withField name field).submission.request = state.submission.request := rfl
    rw [List.foldl_cons, ih, prepare_eq, request, Underway.field_withField,
      Underway.withField_withField]
    rfl

private theorem Rule.enforceFirst_eq (rules : List Rule) :
    enforceFirst name state rules
      = (state.follow name
          (firstVerdict state.submission.surroundings (state.field name) rules)).2 := by
  induction rules with
  | nil => rfl
  | cons rule rest ih =>
    rw [enforceFirst, enforce_eq, firstVerdict]
    cases rule.check state.submission.surroundings (state.field name) with
    | passed => exact ih
    | _ => rfl

end

/-- A validator leaves a submission as it is but for its own field, of which it makes what it
makes of the field for itself. -/
theorem FieldValidator.runOn_eq (validator : FieldValidator) (submission : Submission) :
    validator.runOn submission
      = submission.setRecord validator.name
          (validator.run submission.surroundings (submission.record validator.name)) := by
  let name := validator.name
  let prepared := validator.prepared submission.request (submission.record name).value
  -- The initializers put another value in place, if any, and leave the error alone.
  let left : Underway := Underway.withField { submission } name prepared
  have initialized :
      validator.initializers.foldl (Initializer.prepare name) { submission } = left :=
    Initializer.foldl_prepare { submission } name validator.initializers
  have record : left.submission.record name
      = ⟨prepared.stored, (submission.record name).error⟩ :=
    (submission.record_setRecord name name _).trans (if_pos rfl)
  rw [runOn, initialized, Rule.enforceFirst_eq, Underway.field_withField,
    Underway.submission_follow, record, run_eq_leave]
  exact submission.setRecord_setRecord name _ _

end Stencil
