import Stencil.CommandLine

/-!
# The program

Performs the actions of a command on the file system.
-/
namespace Stencil

/-- The number of an error, which may be reported with its sign changed. -/
def errorNumber (code : UInt32) : Nat := min code.toNat (-code).toNat

/-- The fault behind an error, by its number where that is needed. -/
def FileFault.ofError (error : IO.Error) : FileFault :=
  match error with
  | .noFileOrDirectory .. => .notFound
  | .alreadyExists .. => .alreadyExists
  | .permissionDenied .. => .denied
  | .resourceBusy .. => .busy
  | .inappropriateType _ code _ =>
    match errorNumber code with
    | 20 => .notDirectory
    | 21 => .isDirectory
    | _ => .other (toString error)
  | error => .other (toString error)

/-- The result of an operation, or its fault. -/
def attemptIO {α : Type} (operation : IO α) : IO (Except FileFault α) := do
  try return .ok (← operation) catch error => return .error (.ofError error)

/-- A directory entry that stands for the path itself. -/
def entryAt (path : String) : IO.FS.DirEntry where
  root := path
  fileName := ""

def nanoseconds (time : IO.FS.SystemTime) : Time := time.sec * 1000000000 + time.nsec.toNat

def FileKind.ofType : IO.FS.FileType → FileKind
  | .dir => .directory
  | .file => .file
  | _ => .other

/-- The entries of a directory, by name. -/
def listDirectory (path : String) : IO (List (String × FileKind)) := do
  let entries ← (entryAt path).root.readDir
  let named ← entries.toList.mapM fun entry => do
    let info ← entry.path.symlinkMetadata
    return (entry.fileName, FileKind.ofType info.type)
  return named.mergeSort fun a b => a.1 ≤ b.1

def Content.toBytes : Content → ByteArray
  | .text s => s.toUTF8
  | .binary bytes => bytes

def hexOfByte (byte : UInt8) : List Char :=
  [Nat.digitChar (byte.toNat / 16), Nat.digitChar (byte.toNat % 16)].map Char.toUpper

/-- Twelve random digits. -/
def randomId : IO String := do
  let bytes ← IO.getRandomBytes 6
  return String.ofList (bytes.toList.flatMap hexOfByte)

def performIO : (action : Action) → IO action.Answer
  | .read path => attemptIO do return Content.ofBytes (← IO.FS.readBinFile path)
  | .modified path => attemptIO do
    return nanoseconds (← (entryAt path).root.metadata).modified
  | .list path => attemptIO (listDirectory path)
  | .isDirectory path => (entryAt path).root.isDir
  | .makeDirectory path => attemptIO (IO.FS.createDir path)
  | .write path content => attemptIO (IO.FS.writeBinFile path content.toBytes)
  | .rename source target => attemptIO (IO.FS.rename source target)
  | .remove path => attemptIO (IO.FS.removeFile path)
  | .stagingId => randomId
  | .environment name => return (← IO.getEnv name).map .text
  | .print text => IO.print text
  | .printError text => IO.eprint text
  | .warn text => IO.eprint ("W: " ++ text ++ "\n")

def Program.runIO {α : Type} : Program α → IO α
  | .done result => return result
  | .step action next => do (next (← performIO action)).runIO

end Stencil

def main (arguments : List String) : IO UInt32 := do
  let code ← (Stencil.CommandLine.run arguments).runIO
  return code.toUInt32
