import Stencil.Json.Decode
import Stencil.Json.Writer
import Stencil.View

/-!
# Views as JSON

The form in which compiled views are stored. A choice is an object with its name
as only member, or the name alone if it carries nothing.
-/
namespace Stencil

open Json

namespace BinaryOp

def name : BinaryOp → String
  | .or => "Or"
  | .and => "And"
  | .eq => "Eq"
  | .ne => "Ne"
  | .lt => "Lt"
  | .le => "Le"
  | .gt => "Gt"
  | .ge => "Ge"
  | .add => "Add"
  | .sub => "Sub"
  | .concat => "Concat"

def ofName? : String → Option BinaryOp
  | "Or" => some .or
  | "And" => some .and
  | "Eq" => some .eq
  | "Ne" => some .ne
  | "Lt" => some .lt
  | "Le" => some .le
  | "Gt" => some .gt
  | "Ge" => some .ge
  | "Add" => some .add
  | "Sub" => some .sub
  | "Concat" => some .concat
  | _ => none

end BinaryOp

def encodeOptional (s : Option String) : Value := (s.map Value.string).getD .null

def encodeStrings (strings : List String) : Value := .array (strings.map .string)

namespace Expr

def encode : Expr → Value
  | .literal value => .object [("Literal", value)]
  | .var path => .object [("Var", encodeStrings path)]
  | .not operand => .object [("Not", operand.encode)]
  | .neg operand => .object [("Neg", operand.encode)]
  | .binary op left right =>
    .object [("Binary", .array [.string op.name, left.encode, right.encode])]

def decode? : Value → Option Expr
  | .object [("Literal", value)] => some (.literal value.canonical)
  | .object [("Var", path)] => (list? string? path).map .var
  | .object [("Not", operand)] => (decode? operand).map .not
  | .object [("Neg", operand)] => (decode? operand).map .neg
  | .object [("Binary", .array [op, left, right])] => do
    return .binary (← (choice? op).bind BinaryOp.ofName?) (← decode? left) (← decode? right)
  | _ => none

end Expr

namespace SelectOption

def encode (option : SelectOption) : Value :=
  .object [("title", .string option.title), ("value", .string option.value)]

def decode? (value : Value) : Option SelectOption :=
  match fields? false ["title", "value"] value with
  | some [title, value] => do return ⟨← required? string? title, ← required? string? value⟩
  | _ => none

end SelectOption

namespace OptionSource

def encode : OptionSource → Value
  | .fixed options => .object [("Static", .array (options.map SelectOption.encode))]
  | .bound attrib titleKey valueKey =>
    .object [("Bound", .object [("attrib", .string attrib), ("title_key", .string titleKey),
      ("value_key", .string valueKey)])]

def decode? : Value → Option OptionSource
  | .object [("Static", options)] => (list? SelectOption.decode? options).map .fixed
  | .object [("Bound", payload)] =>
    match fields? false ["attrib", "title_key", "value_key"] payload with
    | some [attrib, titleKey, valueKey] => do
      return .bound (← required? string? attrib) (← required? string? titleKey)
        (← required? string? valueKey)
    | _ => none
  | _ => none

end OptionSource

mutual
def Segment.encode : Segment → Value
  | .text s => .object [("Text", .string s)]
  | .echo expr => .object [("Echo", expr.encode)]
  | .assign name expr => .object [("Assign", .array [.string name, expr.encode])]
  | .fieldValue name fallback =>
    .object [("FieldValue", .object [("name", .string name), ("default", encodeOptional fallback)])]
  | .checked name on fallback =>
    .object [("Checked", .object [("name", .string name), ("on", .string on),
      ("default", encodeOptional fallback)])]
  | .radioChecked name value fallback =>
    .object [("RadioChecked", .object [("name", .string name), ("value", .string value),
      ("default", encodeOptional fallback)])]
  | .options name source fallback multiple =>
    .object [("Options", .object [("name", .string name), ("source", source.encode),
      ("default", encodeOptional fallback), ("multiple", .bool multiple)])]
  | .ifErrors body => .object [("IfErrors", .array (encodeSegments body))]
  | .eachError template => .object [("EachError", .string template)]

def encodeSegments : List Segment → List Value
  | [] => []
  | segment :: rest => segment.encode :: encodeSegments rest
end

def Fragment.encode (fragment : Fragment) : Value := .array (encodeSegments fragment)

/-- The segments that hold no others, by name and payload. -/
def Segment.decodeLeaf? : String → Value → Option Segment
  | "Text", s => (string? s).map .text
  | "Echo", expr => (Expr.decode? expr).map .echo
  | "Assign", .array [name, expr] => do return .assign (← string? name) (← Expr.decode? expr)
  | "FieldValue", payload =>
    match fields? false ["name", "default"] payload with
    | some [name, fallback] => do
      return .fieldValue (← required? string? name) (← nullable? string? fallback)
    | _ => none
  | "Checked", payload =>
    match fields? false ["name", "on", "default"] payload with
    | some [name, on, fallback] => do
      return .checked (← required? string? name) (← required? string? on)
        (← nullable? string? fallback)
    | _ => none
  | "RadioChecked", payload =>
    match fields? false ["name", "value", "default"] payload with
    | some [name, value, fallback] => do
      return .radioChecked (← required? string? name) (← required? string? value)
        (← nullable? string? fallback)
    | _ => none
  | "Options", payload =>
    match fields? false ["name", "source", "default", "multiple"] payload with
    | some [name, source, fallback, multiple] => do
      return .options (← required? string? name) (← required? OptionSource.decode? source)
        (← nullable? string? fallback) (← required? bool? multiple)
    | _ => none
  | "EachError", template => (string? template).map .eachError
  | _, _ => none

mutual
def Segment.decode? : Value → Option Segment
  | .object [("IfErrors", .array body)] => (decodeSegments? body).map .ifErrors
  | .object [(name, payload)] => Segment.decodeLeaf? name payload
  | _ => none

def decodeSegments? : List Value → Option (List Segment)
  | [] => some []
  | value :: rest => do return (← Segment.decode? value) :: (← decodeSegments? rest)
end

def Fragment.decode? : Value → Option Fragment
  | .array items => decodeSegments? items
  | _ => none

namespace View

def encode (view : View) : Value :=
  .object [("source", .string view.source), ("body", view.body.encode)]

def decode? (value : Value) : Option View :=
  match fields? false ["source", "body"] value with
  | some [source, body] => do
    return ⟨← required? string? source, ← required? Fragment.decode? body⟩
  | _ => none

def toJson (view : View) : String := Json.text view.encode

def ofJson? (text : String) : Option View := (Json.read text).bind decode?

end View

end Stencil
