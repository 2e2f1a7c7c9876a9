import Stencil.Dict
import Stencil.Files.Fault
import Stencil.Files.Path

/-!
# Trees of files

A tree of files as a value, which stands for what lies below the working directory.
Files and directories are found by the parts of their path. Every write happens at a
later time than all that came before. Of what lies outside of the tree nothing can be
found, and an absolute path leads outside of it wherever it points. A name is any text
without a slash, so one with a NUL in it is taken, which a file system refuses.
-/
namespace Stencil

abbrev Time := Int

/-- What a file holds. -/
inductive Content where
  | text (s : String)
  /-- Bytes that are no text. -/
  | binary (bytes : ByteArray)

def Content.ofBytes (bytes : ByteArray) : Content :=
  match String.fromUTF8? bytes with
  | some s => .text s
  | none => .binary bytes

inductive FileKind where
  | directory
  | file
  | other
  deriving DecidableEq

inductive FileEntry where
  | file (content : Content) (modified : Time)
  /-- With the time it was made. -/
  | directory (modified : Time)

namespace FileEntry

def kind : FileEntry → FileKind
  | .file .. => .file
  | .directory _ => .directory

def modified : FileEntry → Time
  | .file _ modified => modified
  | .directory modified => modified

end FileEntry

/-- The entries by the parts of their path, joined with slashes. -/
structure FileTree where
  entries : Dict FileEntry := .empty
  /-- The time of the next write. -/
  clock : Time

namespace FileTree

/-- A directory that paths lead to. -/
inductive Spot where
  | inside (parts : List String)
  | outside

/-- What a path leads to: a directory, or a name in one. -/
inductive Target where
  | spot (spot : Spot)
  | child (directory : Spot) (name : String) (asDirectory : Bool)

def key (parts : List String) : String := "/".intercalate parts

/-- The entry with a name in a directory. -/
def child? (tree : FileTree) (name : String) : Spot → Option FileEntry
  | .inside parts => tree.entries.get? (key (parts ++ [name]))
  | .outside => none

/-- The directory a part leads to. -/
def enter (tree : FileTree) (spot : Spot) (part : String) : Except FileFault Spot :=
  match spot with
  | .outside => if part = "." ∨ part = ".." then .ok .outside else .error .notFound
  | .inside parts =>
    if part = "." then .ok spot
    else if part = ".." then .ok (if parts.isEmpty then .outside else .inside parts.dropLast)
    else
      match tree.child? part spot with
      | none => .error .notFound
      | some (.file ..) => .error .notDirectory
      | some (.directory _) => .ok (.inside (parts ++ [part]))

/-- Follow a path up to its last part. Only a relative path leads into the tree. -/
def target (tree : FileTree) (path : String) : Except FileFault Target := do
  if path.isEmpty then throw .notFound
  let start := if Path.isAbsolute path then .outside else .inside []
  let (steps, asDirectory) := Path.steps path
  match steps.getLast? with
  | none => return .spot start
  | some last =>
    let directory ← steps.dropLast.foldlM tree.enter start
    if last = "." ∨ last = ".." then return .spot (← tree.enter directory last)
    else return .child directory last asDirectory

/-- The entry a path leads to. -/
def find (tree : FileTree) (path : String) : Except FileFault FileEntry := do
  match ← tree.target path with
  | .spot _ => return .directory tree.clock
  | .child directory name asDirectory =>
    match tree.child? name directory with
    | none => throw .notFound
    | some (.file content modified) =>
      if asDirectory then throw .notDirectory else return .file content modified
    | some entry => return entry

def read (tree : FileTree) (path : String) : Except FileFault Content := do
  match ← tree.find path with
  | .file content _ => return content
  | .directory _ => throw .isDirectory

def modified (tree : FileTree) (path : String) : Except FileFault Time :=
  (tree.find path).map FileEntry.modified

def isDirectory (tree : FileTree) (path : String) : Bool :=
  match tree.find path with
  | .ok (.directory _) => true
  | _ => false

/-- The directory a path leads to. -/
def directory (tree : FileTree) (path : String) : Except FileFault Spot := do
  match ← tree.target path with
  | .spot spot => return spot
  | .child directory name _ => tree.enter directory name

/-- The name of an entry that lies directly in the directory with this key. -/
def nameIn? (directory entry : String) : Option String := do
  let start := if directory.isEmpty then "" else directory ++ "/"
  let name ← Text.afterStart? start.toList entry.toList
  if name.contains '/' then none else some (String.ofList name)

/-- The entries of a directory by name. -/
def list (tree : FileTree) (path : String) : Except FileFault (List (String × FileKind)) := do
  match ← tree.directory path with
  | .outside => throw .notFound
  | .inside parts =>
    return tree.entries.entries.filterMap fun (entry, what) =>
      (nameIn? (key parts) entry).map fun name => (name, what.kind)

/-- Put an entry at its place at the current time. -/
def put (tree : FileTree) (place : String) (entry : Time → FileEntry) : FileTree :=
  ⟨tree.entries.insert place (entry tree.clock), tree.clock + 1⟩

/-- Where in the tree a name in a directory is kept. -/
def place (directory : Spot) (name : String) : Except FileFault String :=
  match directory with
  | .inside parts => .ok (key (parts ++ [name]))
  | .outside => .error .denied

def makeDirectory (tree : FileTree) (path : String) : Except FileFault FileTree := do
  match ← tree.target path with
  | .spot _ => throw .alreadyExists
  | .child directory name _ =>
    if (tree.child? name directory).isSome then throw .alreadyExists
    return tree.put (← place directory name) .directory

def write (tree : FileTree) (path : String) (content : Content) : Except FileFault FileTree := do
  match ← tree.target path with
  | .spot _ => throw .isDirectory
  | .child directory name asDirectory =>
    if asDirectory then throw .isDirectory
    match tree.child? name directory with
    | some (.directory _) => throw .isDirectory
    | _ => return tree.put (← place directory name) (.file content)

/-- The file a path leads to, and its place. -/
def fileAt (tree : FileTree) (path : String) : Except FileFault (String × FileEntry) := do
  match ← tree.target path with
  | .spot _ => throw .isDirectory
  | .child directory name asDirectory =>
    match tree.child? name directory with
    | none => throw .notFound
    | some (.directory _) => throw .isDirectory
    | some entry =>
      if asDirectory then throw .notDirectory
      return (← place directory name, entry)

def remove (tree : FileTree) (path : String) : Except FileFault FileTree := do
  let (place, _) ← tree.fileAt path
  return { tree with entries := tree.entries.erase place }

/-- Rename a file; a file that is in the way is replaced, and times stay. -/
def rename (tree : FileTree) (source path : String) : Except FileFault FileTree := do
  let _ ← tree.target source
  match ← tree.target path with
  | .spot _ => throw .busy
  | .child directory name asDirectory =>
    let (old, entry) ← tree.fileAt source
    if asDirectory then throw .notDirectory
    match tree.child? name directory with
    | some (.directory _) => throw .isDirectory
    | _ => return { tree with
        entries := (tree.entries.erase old).insert (← place directory name) entry }

/-- Put something at a path, with the directories it needs. A path with a slash at
its end is a directory. -/
def plant (tree : FileTree) (path : String) (entry : FileEntry) : FileTree :=
  let parts := Path.parts path
  let ensure (tree : FileTree) (n : Nat) : FileTree :=
    let directory := key (parts.take n)
    if tree.entries.contains directory then tree else tree.put directory .directory
  let tree := ((List.range parts.length).drop 1).foldl ensure tree
  if (Path.steps path).2 then ensure tree parts.length
  else { tree with entries := tree.entries.insert (key parts) entry }

/-- Take out a path and all below it. -/
def prune (tree : FileTree) (path : String) : FileTree :=
  let gone := key (Path.parts path)
  { tree with entries := tree.entries.filter fun entry _ =>
      entry ≠ gone ∧ (Text.afterStart? (gone ++ "/").toList entry.toList).isNone }

/-- Give a path another time. -/
def setModified (tree : FileTree) (path : String) (modified : Time) : FileTree :=
  let place := key (Path.parts path)
  match tree.entries.get? place with
  | some (.file content _) =>
    { tree with entries := tree.entries.insert place (.file content modified) }
  | some (.directory _) =>
    { tree with entries := tree.entries.insert place (.directory modified) }
  | none => tree

/-- All paths in the tree, each directory before what is in it, the names in
ascending order; directories have a slash at their end. -/
def paths (tree : FileTree) : List String :=
  let sorted := tree.entries.entries.mergeSort fun a b =>
    Path.before (Path.parts a.1) (Path.parts b.1)
  sorted.map fun (path, entry) =>
    match entry with
    | .file .. => path
    | .directory _ => path ++ "/"

end FileTree

end Stencil
