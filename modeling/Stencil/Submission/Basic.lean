import Stencil.Expr.Eval
import Stencil.Form

/-!
# Submissions

A form together with what was submitted for it. Its values start as some initial
ones under the submitted parameters; which groups hold is settled by these.
-/
namespace Stencil

structure Submission where
  form : Form
  request : Request
  fields : List String
  values : Dict Value
  errors : Dict String
  groups : Dict Bool

namespace Submission

/-- Initial values with the submitted parameters over them. -/
def mergeValues (initial submitted : Dict Value) : Dict Value :=
  submitted.entries.foldl (fun values entry => values.insert entry.1 entry.2) initial

def new (form : Form) (request : Request) (initial : Dict Value) : Submission :=
  let values := mergeValues initial request.params
  let holds (group : Group) := (group.condition.eval (Scope.ofDict values)).truthy
  { form, request, values
    fields := form.fields
    errors := .empty
    groups := .ofList (form.groups.map fun group => (group.id, holds group)) }

/-- The values that expressions see. -/
def scope (submission : Submission) : Scope := Scope.ofDict submission.values

def get? (submission : Submission) (name : String) : Option Value := submission.values.get? name

def set (submission : Submission) (name : String) (value : Value) : Submission :=
  { submission with values := submission.values.insert name value }

/-- Take out a field with its value. -/
def remove (submission : Submission) (name : String) : Submission :=
  { submission with
    fields := submission.fields.filter (· ≠ name)
    values := submission.values.erase name }

/-- Groups that are not known do not hold. -/
def groupHolds (submission : Submission) (id : String) : Bool :=
  submission.groups.getD id false

def error? (submission : Submission) (name : String) : Option String := submission.errors.get? name

def setError (submission : Submission) (name message : String) : Submission :=
  { submission with errors := submission.errors.insert name message }

def removeError (submission : Submission) (name : String) : Submission :=
  { submission with errors := submission.errors.erase name }

def isValid (submission : Submission) : Bool := submission.errors.isEmpty

/-- A field that is validated belongs to the submission. -/
def addField (submission : Submission) (name : String) : Submission :=
  if submission.fields.contains name then submission
  else { submission with fields := submission.fields ++ [name] }

/-- Every field with its value, null if it has none. -/
def toDict (submission : Submission) : Dict Value :=
  .ofList (submission.fields.map fun name => (name, (submission.get? name).getD .null))

/-- Like `toDict`, with empty texts as null. -/
def toDictNullEmpty (submission : Submission) : Dict Value :=
  submission.toDict.map fun _ value =>
    match value with
    | .string "" => .null
    | value => value

/-- Like `toDict`, without null values and empty texts. -/
def toDictSkipEmpty (submission : Submission) : Dict Value :=
  submission.toDict.filter fun _ value =>
    match value with
    | .null | .string "" => false
    | _ => true

end Submission

end Stencil
