import Stencil.Files.Program

/-!
# Reading and writing files

A file is written under another name in the same directory first and then renamed, so
that a reader finds either the old or the new contents.
-/
namespace Stencil.Job

/-- The text of a file. -/
def readText (path : String) : Job String := do
  match ← attempt (.read path) (.perform (.read path)) with
  | .text s => return s
  | .binary _ => throw (.within (.read path) (.file .notText))

/-- Make a directory that those around it exist for. Someone else may have made it in
the meantime. -/
def makeOne (path : String) : Program (Except FileFault Unit) := do
  match ← Program.perform (.makeDirectory path) with
  | .ok _ => return .ok ()
  | .error fault =>
    if ← Program.perform (.isDirectory path) then return .ok () else return .error fault

/-- Make the first of some directories, each of which lies in the next one. -/
def makeDirectories : List String → Program (Except FileFault Unit)
  | [] => return .ok ()
  | path :: outer => do
    if path.isEmpty then return .ok ()
    match ← Program.perform (.makeDirectory path) with
    | .ok _ => return .ok ()
    | .error .notFound =>
      match ← makeDirectories outer with
      | .ok _ => makeOne path
      | .error fault => return .error fault
    | .error fault =>
      if ← Program.perform (.isDirectory path) then return .ok () else return .error fault

/-- A directory and those around it. -/
def makeDirectory (path : String) : Program (Except FileFault Unit) :=
  makeDirectories (Path.outward (path.length + 1) path)

/-- Where the contents of a file go before it is renamed. -/
def stagingName (name id : String) : String := name ++ "." ++ id ++ ".tmp"

/-- Write a file at once: first an empty file is made, then filled, then renamed. If that
fails nothing is left behind but directories. -/
def writeAtomic (path : String) (content : Content) : Job Unit := do
  let directory := (Path.parent? path).getD "."
  attempt (.createDirectory directory) (makeDirectory directory)
  match Path.fileName? path with
  | none => throw (.noFileName path)
  | some name =>
    let id ← perform .stagingId
    let staging := Path.join directory (stagingName name id)
    tryCatch (do
      attempt (.createFile staging) (.perform (.write staging (.text "")))
      attempt (.writeFile staging) (.perform (.write staging content))
      attempt (.rename staging path) (.perform (.rename staging path)))
      fun failure => do
        let _ ← perform (.remove staging)
        throw failure

end Stencil.Job
