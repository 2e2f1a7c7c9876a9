import Stencil.Tag.Head
import Stencil.Text.Search

/-!
# Static attributes

Values that templates set and compare while they are compiled. The first
comparison attribute of a conditional counts, in the order equal, notequal, in,
notin, isset, notset.
-/
namespace Stencil

abbrev Statics := Dict String

inductive Comparison where
  | equal (attr value : String)
  | notEqual (attr value : String)
  | isIn (attr : String) (items : List String)
  | notIn (attr : String) (items : List String)
  | isSet (attr : String)
  | notSet (attr : String)
  deriving DecidableEq

namespace Comparison

/-- The items of a list with commas, without the blanks around them. -/
def splitList (list : String) : List String :=
  (Text.splitOnChar ',' list.toList).map fun item => String.ofList (Text.trim item)

def ofHead (head : Head) : Except CompileError Comparison :=
  match head.attr? "equal", head.attr? "notequal", head.attr? "in", head.attr? "notin",
      head.attr? "isset", head.attr? "notset" with
  | some value, _, _, _, _, _ => (head.required "attr").map fun attr => .equal attr value
  | none, some value, _, _, _, _ => (head.required "attr").map fun attr => .notEqual attr value
  | none, none, some list, _, _, _ => (head.required "attr").map fun attr => .isIn attr (splitList list)
  | none, none, none, some list, _, _ =>
    (head.required "attr").map fun attr => .notIn attr (splitList list)
  | none, none, none, none, some attr, _ => .ok (.isSet attr)
  | none, none, none, none, none, some attr => .ok (.notSet attr)
  | none, none, none, none, none, none => .error (.missingComparison head.ref)

def holds (statics : Statics) : Comparison → Bool
  | .equal attr value => statics.get? attr == some value
  | .notEqual attr value => statics.get? attr != some value
  | .isIn attr items =>
    match statics.get? attr with
    | some value => items.contains value
    | none => false
  | .notIn attr items =>
    match statics.get? attr with
    | some value => !items.contains value
    | none => true
  | .isSet attr => statics.contains attr
  | .notSet attr => !statics.contains attr

end Comparison

/-- Set the static attribute a tag names. -/
def Statics.set (statics : Statics) (head : Head) : Except CompileError Statics :=
  (head.required "name").map fun name => statics.insert name (head.attrD "value" "")

end Stencil
