import Stencil.Config
import Stencil.View.Codec

/-!
# Configurations as JSON

Every field may be left out and then has its default.
-/
namespace Stencil

open Json

namespace CacheMode

def encode (mode : CacheMode) : Value := .string mode.text

def decode? (value : Value) : Option CacheMode := (choice? value).bind ofText?

end CacheMode

namespace Messages

def encode (messages : Messages) : Value :=
  .object [("input_invalid", .string messages.inputInvalid),
    ("input_required", .string messages.inputRequired),
    ("select_invalid", .string messages.selectInvalid),
    ("select_required", .string messages.selectRequired),
    ("file_required", .string messages.fileRequired),
    ("file_invalid", .string messages.fileInvalid),
    ("select_choose", .string messages.selectChoose),
    ("select_any", .string messages.selectAny)]

def fieldNames : List String :=
  ["input_invalid", "input_required", "select_invalid", "select_required", "file_required",
    "file_invalid", "select_choose", "select_any"]

def decode? (value : Value) : Option Messages :=
  let default : Messages := {}
  match fields? true fieldNames value with
  | some [inputInvalid, inputRequired, selectInvalid, selectRequired, fileRequired, fileInvalid,
      selectChoose, selectAny] => do
    return {
      inputInvalid := ← defaulted? string? default.inputInvalid inputInvalid
      inputRequired := ← defaulted? string? default.inputRequired inputRequired
      selectInvalid := ← defaulted? string? default.selectInvalid selectInvalid
      selectRequired := ← defaulted? string? default.selectRequired selectRequired
      fileRequired := ← defaulted? string? default.fileRequired fileRequired
      fileInvalid := ← defaulted? string? default.fileInvalid fileInvalid
      selectChoose := ← defaulted? string? default.selectChoose selectChoose
      selectAny := ← defaulted? string? default.selectAny selectAny }
  | _ => none

end Messages

namespace Config

def encode (config : Config) : Value :=
  .object [("tag_dir", encodeOptional config.tagDir), ("cache_dir", .string config.cacheDir),
    ("cache_mode", config.cacheMode.encode),
    ("constants", .ofDict (config.constants.map fun _ s => .string s)),
    ("variables", .ofDict config.variableValues),
    ("base_models", encodeStrings config.baseModels.keys), ("messages", config.messages.encode)]

def fieldNames : List String :=
  ["tag_dir", "cache_dir", "cache_mode", "constants", "variables", "base_models", "messages"]

/-- A list of names as a set. -/
def names? (value : Value) : Option (Dict Unit) :=
  (list? string? value).map fun names => .ofList (names.map fun name => (name, ()))

def decode? (value : Value) : Option Config :=
  let default : Config := {}
  match fields? true fieldNames value with
  | some [tagDir, cacheDir, cacheMode, constants, variableValues, baseModels, messages] => do
    return {
      tagDir := ← defaulted? (optional? string?) default.tagDir tagDir
      cacheDir := ← defaulted? string? default.cacheDir cacheDir
      cacheMode := ← defaulted? CacheMode.decode? default.cacheMode cacheMode
      constants := ← defaulted? (dict? string?) default.constants constants
      variableValues := ← defaulted? Value.toDict? default.variableValues variableValues
      baseModels := ← defaulted? names? default.baseModels baseModels
      messages := ← defaulted? Messages.decode? default.messages messages }
  | _ => none

def ofJson? (text : String) : Option Config := (Json.read text).bind decode?

end Config

end Stencil
