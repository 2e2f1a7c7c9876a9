import Stencil.Request
import Stencil.Text.Blank
import Stencil.Text.Offset
import Stencil.Value.Coercion

/-!
# Options of select and radio fields

Option lists are written in brackets: `[Title, value]` or `[value]`. Rendering and
validation of a field take their options from the same `OptionSource`.
-/
namespace Stencil

structure SelectOption where
  title : String
  value : String
  deriving DecidableEq

/-- A bracketed part of a text, and the text since the one before it. -/
structure Bracketed where
  before : List Char
  inner : List Char
  deriving DecidableEq

/-- The bracketed parts of a text and what is left behind the last one. A bracket
reaches to the first closing one, and without that it is no bracket. The text read
since the last part, and inside an open bracket, is kept in reverse. -/
def bracketsFrom (before : List Char) : Option (List Char) → List Char → List Bracketed × List Char
  | none, [] => ([], before.reverse)
  | some inner, [] => ([], before.reverse ++ '[' :: inner.reverse)
  | none, c :: rest =>
    if c = '[' then bracketsFrom before (some []) rest else bracketsFrom (c :: before) none rest
  | some inner, c :: rest =>
    if c = ']' then
      let (found, tail) := bracketsFrom [] none rest
      (⟨before.reverse, inner.reverse⟩ :: found, tail)
    else bracketsFrom before (some (c :: inner)) rest

def brackets (text : List Char) : List Bracketed × List Char := bracketsFrom [] none text

/-- Empty brackets count as plain text. -/
def joinEmpty (before : List Char) : List Bracketed → List Char → List Bracketed × List Char
  | [], tail => ([], before ++ tail)
  | part :: rest, tail =>
    if part.inner.isEmpty then joinEmpty (before ++ part.before ++ ['[', ']']) rest tail
    else
      let (found, tail) := joinEmpty [] rest tail
      (⟨before ++ part.before, part.inner⟩ :: found, tail)

/-- The bracketed parts that are not empty, and the text behind the last one. -/
def filledBrackets (text : List Char) : List Bracketed × List Char :=
  let (found, tail) := brackets text
  joinEmpty [] found tail

/-- Start and end of every part in bytes, the brackets included, and its text. -/
def spansFrom (start : Nat) : List Bracketed → List (Nat × Nat × String)
  | [] => []
  | part :: rest =>
    let first := start + Text.byteSize part.before
    let last := first + Text.byteSize part.inner + 2
    (first, last, String.ofList part.inner) :: spansFrom last rest

def bracketSpans (text : List Char) : List (Nat × Nat × String) :=
  spansFrom 0 (filledBrackets text).1

/-- The bracketed values of a radio body, blanks included. -/
def radioValues (text : List Char) : List String :=
  (filledBrackets text).1.map fun part => String.ofList part.inner

/-- Title and value are parted by the first comma; without one the value is the
title. Blanks around both are dropped. -/
def SelectOption.ofInner (inner : List Char) : SelectOption :=
  let title := inner.takeWhile (· ≠ ',')
  match inner.dropWhile (· ≠ ',') with
  | [] => ⟨String.ofList (Text.trim inner), String.ofList (Text.trim inner)⟩
  | _ :: value => ⟨String.ofList (Text.trim title), String.ofList (Text.trim value)⟩

def SelectOption.isEmpty (option : SelectOption) : Bool :=
  option.title.isEmpty && option.value.isEmpty

/-- The options of a select body in document order, without empty ones. -/
def parseOptions (text : List Char) : List SelectOption :=
  ((brackets text).1.map fun part => SelectOption.ofInner part.inner).filter fun option =>
    !option.isEmpty

/-- Where the options of a field come from. -/
inductive OptionSource where
  | fixed (options : List SelectOption)
  /-- A request attribute that holds a list of objects. -/
  | bound (attrib titleKey valueKey : String)
  deriving DecidableEq

namespace OptionSource

/-- The text of a member of an object; what is not there is empty. -/
def memberText (item : Value) (key : String) : String :=
  match item with
  | .object members => ((Dict.lookup key members).map Value.text).getD ""
  | _ => ""

def resolve (source : OptionSource) (request : Request) : List SelectOption :=
  match source with
  | .fixed options => options
  | .bound attrib titleKey valueKey =>
    match request.attribs.get? attrib with
    | some (.array items) => items.map fun item => ⟨memberText item titleKey, memberText item valueKey⟩
    | _ => []

def contains (source : OptionSource) (request : Request) (value : String) : Bool :=
  (source.resolve request).any fun option => option.value == value

end OptionSource

end Stencil
