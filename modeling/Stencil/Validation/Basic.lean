import Stencil.Options

/-!
# Field validation

Per field a list of initializers that prepare the submitted value, then a chain of
rules of which only the first one that matches takes effect.
-/
namespace Stencil

inductive Initializer where
  /-- Start from the value the field has. -/
  | getValue
  /-- Anything but a text becomes the empty text. -/
  | ensureString
  /-- Anything but a list becomes the empty list. -/
  | ensureList
  | stripControl (keepWhitespace : Bool)
  | stripMarkup
  | removeChars (chars : String)
  | keepChars (chars : String)
  /-- Look up the upload of the field. -/
  | getFile
  deriving DecidableEq

inductive Rule where
  /-- Matches an empty value, which is an error if the field is required and its
  group, if it has one, holds. -/
  | required (demanded : Bool) (group : Option String) (message : String)
  | minLength (min : Nat) (message : String)
  | maxLength (max : Nat) (message : String)
  /-- Matches what is not made of digits only. -/
  | number (message : String)
  | minSize (min : Double) (message : String)
  | maxSize (max : Double) (message : String)
  /-- Matches what the pattern does not match. -/
  | pattern (written : String) (message : String)
  /-- Matches any value but `on` and replaces it by `off`; never an error. -/
  | checkboxOnOff (on off : String)
  | inOptions (source : OptionSource) (message : String)
  /-- Matches a list with a member that is no option. -/
  | allInOptions (source : OptionSource) (message : String)
  /-- Like `required`, for a missing upload. -/
  | fileRequired (demanded : Bool) (group : Option String) (message : String)
  /-- Matches a failed upload. -/
  | uploadError (message sizeMessage : String)
  | minFileSize (min : Nat) (message : String)
  | maxFileSize (max : Nat) (message : String)
  deriving DecidableEq

structure FieldValidator where
  name : String
  initializers : List Initializer
  rules : List Rule
  deriving DecidableEq

end Stencil
