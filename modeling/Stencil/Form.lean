import Stencil.Expr.Basic
import Stencil.Text.Capital
import Stencil.Validation.Basic

/-!
# Compiled forms

The validation of one form as it is stored: its fields, the conditions of its
groups and a validator per field.
-/
namespace Stencil

/-- A group of fields that are only required while the condition holds. -/
structure Group where
  id : String
  condition : Expr

structure Form where
  typeName : String
  id : String
  /-- The base type whose validation comes after that of the fields. -/
  base : Option String
  fields : List String
  groups : List Group
  validators : List FieldValidator

/-- The type name of the form with this id. -/
def Form.typeNameOf (id : String) : String :=
  String.ofList (Text.capitalized id.toList) ++ "FormModel"

end Stencil
