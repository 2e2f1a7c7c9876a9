import Stencil.Dict
import Stencil.Value

/-!
# Configuration of compiles
-/
namespace Stencil

/-- When a stored view is compiled again. -/
inductive CacheMode where
  /-- Only if there is none. -/
  | imply
  /-- If there is none or the template is newer. -/
  | check
  /-- Always. -/
  | force
  deriving DecidableEq, Inhabited

namespace CacheMode

def text : CacheMode → String
  | .imply => "imply"
  | .check => "check"
  | .force => "force"

def ofText? : String → Option CacheMode
  | "imply" => some .imply
  | "check" => some .check
  | "force" => some .force
  | _ => none

theorem ofText?_text (mode : CacheMode) : ofText? mode.text = some mode := by
  cases mode <;> rfl

end CacheMode

/-- Texts of error messages and captions where a tag gives none. -/
structure Messages where
  inputInvalid : String := "Invalid value"
  inputRequired : String := "Required"
  selectInvalid : String := "Invalid selection"
  selectRequired : String := "Please make a selection"
  fileRequired : String := "Please choose a file"
  fileInvalid : String := "The file could not be uploaded"
  /-- First option of a required select field. -/
  selectChoose : String := "-- Choose --"
  /-- First option of a select field that is not required. -/
  selectAny : String := "-- Any --"
  deriving DecidableEq

structure Config where
  /-- Where tags are defined; without it all built-in tags are known. -/
  tagDir : Option String := none
  cacheDir : String := "cache"
  cacheMode : CacheMode := .check
  /-- What `{NAME}` stands for. -/
  constants : Dict String := .empty
  /-- The variables of `{$…}`. -/
  variableValues : Dict Value := .empty
  /-- The base types a form may name. -/
  baseModels : Dict Unit := .empty
  messages : Messages := {}

end Stencil
