import Stencil.Form
import Stencil.View.Codec

/-!
# Compiled forms as JSON
-/
namespace Stencil

open Json

namespace Initializer

def encode : Initializer → Value
  | .getValue => .string "GetValue"
  | .ensureString => .string "EnsureString"
  | .ensureList => .string "EnsureList"
  | .stripControl keep =>
    .object [("StripControl", .object [("keep_whitespace", .bool keep)])]
  | .stripMarkup => .string "StripMarkup"
  | .removeChars chars => .object [("RemoveChars", .string chars)]
  | .keepChars chars => .object [("KeepChars", .string chars)]
  | .getFile => .string "GetFile"

/-- The initializers that carry nothing. -/
def ofName? : String → Option Initializer
  | "GetValue" => some .getValue
  | "EnsureString" => some .ensureString
  | "EnsureList" => some .ensureList
  | "StripMarkup" => some .stripMarkup
  | "GetFile" => some .getFile
  | _ => none

def decode? : Value → Option Initializer
  | .object [("StripControl", payload)] =>
    match fields? false ["keep_whitespace"] payload with
    | some [keep] => (required? bool? keep).map .stripControl
    | _ => none
  | .object [("RemoveChars", chars)] => (string? chars).map .removeChars
  | .object [("KeepChars", chars)] => (string? chars).map .keepChars
  | value => (choice? value).bind ofName?

end Initializer

namespace Rule

/-- A rule as an object with its name as only member. -/
def named (name : String) (members : List (String × Value)) : Value :=
  .object [(name, .object members)]

def encode : Rule → Value
  | .required demanded group message =>
    named "Required" [("required", .bool demanded), ("group", encodeOptional group),
      ("message", .string message)]
  | .minLength min message =>
    named "MinLength" [("min", .integer min), ("message", .string message)]
  | .maxLength max message =>
    named "MaxLength" [("max", .integer max), ("message", .string message)]
  | .number message => named "Number" [("message", .string message)]
  | .minSize min message => named "MinSize" [("min", .double min), ("message", .string message)]
  | .maxSize max message => named "MaxSize" [("max", .double max), ("message", .string message)]
  | .pattern written message =>
    named "Pattern" [("pattern", .string written), ("message", .string message)]
  | .checkboxOnOff on off => named "CheckboxOnOff" [("on", .string on), ("off", .string off)]
  | .inOptions source message =>
    named "InOptions" [("source", source.encode), ("message", .string message)]
  | .allInOptions source message =>
    named "AllInOptions" [("source", source.encode), ("message", .string message)]
  | .fileRequired demanded group message =>
    named "FileRequired" [("required", .bool demanded), ("group", encodeOptional group),
      ("message", .string message)]
  | .uploadError message sizeMessage =>
    named "UploadError" [("message", .string message), ("size_message", .string sizeMessage)]
  | .minFileSize min message =>
    named "MinFileSize" [("min", .integer min), ("message", .string message)]
  | .maxFileSize max message =>
    named "MaxFileSize" [("max", .integer max), ("message", .string message)]

/-- A rule with one field of its own and a message. -/
def decodeWith? {α : Type} (key : String) (decode : Value → Option α) (make : α → String → Rule)
    (payload : Value) : Option Rule :=
  match fields? false [key, "message"] payload with
  | some [own, message] => do return make (← required? decode own) (← required? string? message)
  | _ => none

/-- A rule on something missing. -/
def decodeRequired? (make : Bool → Option String → String → Rule) (payload : Value) : Option Rule :=
  match fields? false ["required", "group", "message"] payload with
  | some [demanded, group, message] => do
    return make (← required? bool? demanded) (← nullable? string? group)
      (← required? string? message)
  | _ => none

/-- A rule with two texts. -/
def decodeTexts? (first second : String) (make : String → String → Rule) (payload : Value) :
    Option Rule :=
  match fields? false [first, second] payload with
  | some [a, b] => do return make (← required? string? a) (← required? string? b)
  | _ => none

def decodeNamed? (name : String) (payload : Value) : Option Rule :=
  match name with
  | "Required" => decodeRequired? .required payload
  | "MinLength" => decodeWith? "min" natural64? .minLength payload
  | "MaxLength" => decodeWith? "max" natural64? .maxLength payload
  | "Number" =>
    match fields? false ["message"] payload with
    | some [message] => (required? string? message).map .number
    | _ => none
  | "MinSize" => decodeWith? "min" double? .minSize payload
  | "MaxSize" => decodeWith? "max" double? .maxSize payload
  | "Pattern" => decodeTexts? "pattern" "message" .pattern payload
  | "CheckboxOnOff" => decodeTexts? "on" "off" .checkboxOnOff payload
  | "InOptions" => decodeWith? "source" OptionSource.decode? .inOptions payload
  | "AllInOptions" => decodeWith? "source" OptionSource.decode? .allInOptions payload
  | "FileRequired" => decodeRequired? .fileRequired payload
  | "UploadError" => decodeTexts? "message" "size_message" .uploadError payload
  | "MinFileSize" => decodeWith? "min" natural64? .minFileSize payload
  | "MaxFileSize" => decodeWith? "max" natural64? .maxFileSize payload
  | _ => none

def decode? : Value → Option Rule
  | .object [(name, payload)] => decodeNamed? name payload
  | _ => none

end Rule

namespace FieldValidator

def encode (validator : FieldValidator) : Value :=
  .object [("name", .string validator.name),
    ("initializers", .array (validator.initializers.map Initializer.encode)),
    ("rules", .array (validator.rules.map Rule.encode))]

def decode? (value : Value) : Option FieldValidator :=
  match fields? false ["name", "initializers", "rules"] value with
  | some [name, initializers, rules] => do
    return ⟨← required? string? name, ← required? (list? Initializer.decode?) initializers,
      ← required? (list? Rule.decode?) rules⟩
  | _ => none

end FieldValidator

namespace Group

def encode (group : Group) : Value :=
  .object [("id", .string group.id), ("condition", group.condition.encode)]

def decode? (value : Value) : Option Group :=
  match fields? false ["id", "condition"] value with
  | some [id, condition] => do
    return ⟨← required? string? id, ← required? Expr.decode? condition⟩
  | _ => none

end Group

namespace Form

def encode (form : Form) : Value :=
  .object [("type_name", .string form.typeName), ("form_id", .string form.id),
    ("extends", encodeOptional form.base), ("fields", encodeStrings form.fields),
    ("groups", .array (form.groups.map Group.encode)),
    ("validators", .array (form.validators.map FieldValidator.encode))]

def decode? (value : Value) : Option Form :=
  match fields? false ["type_name", "form_id", "extends", "fields", "groups", "validators"] value with
  | some [typeName, id, base, fields, groups, validators] => do
    return ⟨← required? string? typeName, ← required? string? id, ← nullable? string? base,
      ← required? (list? string?) fields, ← required? (list? Group.decode?) groups,
      ← required? (list? FieldValidator.decode?) validators⟩
  | _ => none

def toJson (form : Form) : String := Json.text form.encode

def ofJson? (text : String) : Option Form := (Json.read text).bind decode?

end Form

end Stencil
