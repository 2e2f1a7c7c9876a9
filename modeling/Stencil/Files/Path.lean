import Stencil.Text.Search

/-!
# Paths

A path is a text whose parts stand between slashes. Empty parts and single dots do
not count, but for a dot at the start of a relative path.
-/
namespace Stencil.Path

def isAbsolute (path : String) : Bool := path.toList.head? == some '/'

/-- A path taken relative to another one. -/
def join (base path : String) : String :=
  if isAbsolute path || base.isEmpty then path
  else if base.toList.getLast? == some '/' then base ++ path
  else base ++ "/" ++ path

/-- The texts between the slashes of a path, without the slash at its start. -/
def segments (path : String) : List (List Char) :=
  Text.splitOnChar '/' (if isAbsolute path then path.toList.tail else path.toList)

def isIdle (segment : List Char) : Bool := segment.isEmpty || segment == ['.']

/-- Drop what does not count at the end. -/
def settle (absolute : Bool) (segments : List (List Char)) : List (List Char) :=
  let kept := (segments.reverse.dropWhile isIdle).reverse
  if kept.isEmpty && !absolute && segments.head? == some ['.'] then [['.']] else kept

def ofSegments (absolute : Bool) (segments : List (List Char)) : String :=
  (if absolute then "/" else "") ++ String.ofList (['/'].intercalate segments)

/-- The path without its last part, if it has one. -/
def parent? (path : String) : Option String :=
  let absolute := isAbsolute path
  match (settle absolute (segments path)).reverse with
  | [] => none
  | _ :: before => some (ofSegments absolute (settle absolute before.reverse))

/-- The last part of a path, unless it is a dot or two. -/
def fileName? (path : String) : Option String :=
  match (settle (isAbsolute path) (segments path)).getLast? with
  | none => none
  | some segment =>
    if segment = ['.'] ∨ segment = ['.', '.'] then none else some (String.ofList segment)

/-- A path and those of the directories around it, from the inside out. The number
bounds how many. -/
def outward : Nat → String → List String
  | 0, _ => []
  | n + 1, path =>
    match parent? path with
    | some parent => path :: outward n parent
    | none => [path]

/-- The parts of a path that are not empty, and whether a slash stands at its end. -/
def steps (path : String) : List String × Bool :=
  let segments := segments path
  ((segments.filter fun segment => !segment.isEmpty).map String.ofList,
    segments.getLast?.any List.isEmpty)

/-- The parts of a path that count. -/
def parts (path : String) : List String := (steps path).1.filter (· ≠ ".")

/-- Order by the first part that differs; what is in a directory comes behind it. -/
def before : List String → List String → Bool
  | [], _ => true
  | _ :: _, [] => false
  | a :: path, b :: other => a < b || (a == b && before path other)

end Stencil.Path
