import Stencil.Files.Program
import Stencil.Registry
import Stencil.Text.Caseless
import Stencil.Text.Lower

/-!
# Tag directories

A tag directory has one directory per namespace and in it one file per tag, named
after the namespace, the tag and the word `Tag`, with an ending. Names that start
with a dot do not count.
-/
namespace Stencil.Registry

/-- Letters from a to z, and what differs from one of them in case only. -/
def isLetter (c : Char) : Bool := c.isAlpha || (Unicode.caseClass c).any Char.isAlpha

def isLetterOrDigit (c : Char) : Bool := isLetter c || c.isDigit

def isEndingChar (c : Char) : Bool := isLetterOrDigit c || c == '.'

def isTagName : List Char → Bool
  | [] => false
  | c :: rest => isLetter c && rest.all isLetterOrDigit

/-- The tag a file defines in a namespace, if its name follows the convention. -/
def tagOfFile? (namespaceName fileName : String) : Option String := do
  let inner ← Text.afterCaseless? namespaceName.toList fileName.toList
  let word := inner.takeWhile (· ≠ '.')
  let ending := (inner.dropWhile (· ≠ '.')).tail
  let name := word.take (word.length - 3)
  if (word.drop (word.length - 3)).map Char.toLower = "tag".toList ∧ isTagName name
      ∧ !ending.isEmpty ∧ ending.all isEndingChar then
    some (String.ofList (Text.lower name))
  else none

def isHidden (name : String) : Bool := name.toList.head? == some '.'

/-- The tag of a file in a tag directory. -/
def fileTag (namespaceName directory fileName : String) :
    Except CompileError (String × TagKind) :=
  let path := Path.join directory fileName
  match tagOfFile? namespaceName fileName with
  | none => .error (.namingConvention path)
  | some name =>
    match builtinTag? namespaceName name with
    | some kind => .ok (name, kind)
    | none => .error (.missingImplementation path (namespaceName ++ ":" ++ name))

/-- The entries of a tag directory. -/
def readDirectory (path : String) : Job (List (String × FileKind)) := do
  match ← Job.perform (.list path) with
  | .ok entries => return entries
  | .error fault =>
    throw (.compile (.io ("reading tag directory " ++ Text.quoted path) fault))

/-- Add what an entry of a namespace directory defines. -/
def addFile (namespaceName directory : String) (registry : Registry)
    (entry : String × FileKind) : Except CompileError Registry :=
  if entry.2 != .file || isHidden entry.1 then .ok registry
  else (fileTag namespaceName directory entry.1).map fun (name, kind) =>
    registry.addTag namespaceName name kind

/-- Add what an entry of the tag directory defines. -/
def addDirectory (directory : String) (registry : Registry) (entry : String × FileKind) :
    Job Registry := do
  let namespaceName := String.ofList (Text.lower entry.1.toList)
  if entry.2 != .directory || isHidden namespaceName then return registry
  let path := Path.join directory entry.1
  let files ← readDirectory path
  Job.compile (files.foldlM (addFile namespaceName path) (registry.addNamespace namespaceName))

/-- The tags that are defined in a directory. -/
def discover (directory : String) : Job Registry := do
  (← readDirectory directory).foldlM (addDirectory directory) .empty

end Stencil.Registry
