import Stencil.Pattern
import Stencil.Submission.Basic
import Stencil.Text.Cleansing

/-!
# Running a field validator

Initializers and rules work on the submission itself, under the name of their field: they
read the value there, and write the value and at most one error back.
-/
namespace Stencil

/-- A submission while one of its fields is validated. -/
structure Underway where
  submission : Submission
  /-- The value at hand. -/
  value : Value := .null
  upload : Option Upload := none

namespace Underway

/-- The text at hand; anything else counts as empty. -/
def text (state : Underway) : List Char :=
  match state.value with
  | .string s => s.toList
  | _ => []

/-- The size of the upload; none at all has size zero. -/
def uploadSize (state : Underway) : Nat := (state.upload.map Upload.size).getD 0

/-- Put a value at hand and in the submission. -/
def replace (state : Underway) (name : String) (value : Value) : Underway :=
  { state with value, submission := state.submission.set name value }

def changeText (state : Underway) (name : String) (change : List Char → List Char) : Underway :=
  state.replace name (.string (String.ofList (change state.text)))

/-- Record a message for the field. -/
def fail (state : Underway) (name message : String) : Underway :=
  { state with submission := state.submission.setError name message }

/-- A rule that matches, and fails, under a condition. -/
def failIf (state : Underway) (name : String) (wrong : Bool) (message : String) :
    Bool × Underway :=
  if wrong then (true, state.fail name message) else (false, state)

/-- A rule that matches something missing, which is an error if it is demanded and its
group, if it has one, holds. -/
def failMissing (state : Underway) (name : String) (demanded : Bool) (group : Option String)
    (message : String) : Bool × Underway :=
  if demanded && group.all state.submission.groupHolds then (true, state.fail name message)
  else (true, state)

end Underway

def Initializer.prepare (name : String) (state : Underway) : Initializer → Underway
  | .getValue => { state with value := (state.submission.get? name).getD .null }
  | .ensureString =>
    match state.value with
    | .string _ => state
    | _ => state.replace name (.string "")
  | .ensureList =>
    match state.value with
    | .array _ => state
    | _ => state.replace name (.array [])
  | .stripControl keepWhitespace => state.changeText name (Text.stripControl keepWhitespace)
  | .stripMarkup => state.changeText name Text.stripMarkup
  | .removeChars chars => state.changeText name (Text.removeChars chars.toList)
  | .keepChars chars => state.changeText name (Text.keepChars chars.toList)
  | .getFile => { state with upload := state.submission.request.files.get? name }

def isEmptyValue : Value → Bool
  | .null => true
  | .string s => s.isEmpty
  | .array items => items.isEmpty
  | _ => false

/-- The number a text stands for; one that is no number counts as zero. -/
def sizeOfText (text : List Char) : Double :=
  match Double.parse text with
  | .ok n => n
  | .error _ => .zero false

def isOption (options : List SelectOption) : Value → Bool
  | .string s => options.any fun option => option.value == s
  | _ => false

/-- Whether a rule matches, and what it leaves. -/
def Rule.enforce (name : String) (state : Underway) : Rule → Bool × Underway
  | .required demanded group message =>
    if isEmptyValue state.value then state.failMissing name demanded group message
    else (false, state)
  | .minLength min message => state.failIf name (state.text.length < min) message
  | .maxLength max message => state.failIf name (max < state.text.length) message
  | .number message =>
    state.failIf name (state.text.isEmpty || !state.text.all Char.isDigit) message
  | .minSize min message => state.failIf name ((sizeOfText state.text).lt min) message
  | .maxSize max message => state.failIf name (max.lt (sizeOfText state.text)) message
  | .pattern written message =>
    match Pattern.regex? written with
    | some regex => state.failIf name (!regex.isMatch state.text) message
    | none => (true, state.fail name message)
  | .checkboxOnOff on off =>
    if state.text = on.toList then (false, state) else (true, state.replace name (.string off))
  | .inOptions source message =>
    let value := String.ofList state.text
    state.failIf name (!source.contains state.submission.request value) message
  | .allInOptions source message =>
    let options := source.resolve state.submission.request
    match state.value with
    | .array items => state.failIf name (!items.all (isOption options)) message
    | _ => (false, state)
  | .fileRequired demanded group message =>
    if state.upload.all fun upload => upload.status == .noFile then
      state.failMissing name demanded group message
    else (false, state)
  | .uploadError message sizeMessage =>
    match state.upload.map Upload.status with
    | some .cantWrite | some .extension | some .noTmpDir | some .partialUpload =>
      (true, state.fail name message)
    | some .iniSize => (true, state.fail name sizeMessage)
    | _ => (false, state)
  | .minFileSize min message => state.failIf name (state.uploadSize < min) message
  | .maxFileSize max message => state.failIf name (max < state.uploadSize) message

/-- Rules one after the other, up to the first that matches. -/
def Rule.enforceFirst (name : String) (state : Underway) : List Rule → Underway
  | [] => state
  | rule :: rest =>
    match rule.enforce name state with
    | (true, left) => left
    | (false, left) => enforceFirst name left rest

/-- Run the initializers and the rules of a field on a submission. -/
def FieldValidator.runOn (validator : FieldValidator) (submission : Submission) : Submission :=
  let prepared := validator.initializers.foldl (Initializer.prepare validator.name) { submission }
  (Rule.enforceFirst validator.name prepared validator.rules).submission

end Stencil
