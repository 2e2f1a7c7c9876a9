/-!
# Faults of file operations
-/
namespace Stencil

inductive FileFault where
  | notFound
  | denied
  | busy
  | alreadyExists
  | notDirectory
  | isDirectory
  | notText
  /-- What else a file system may report. -/
  | other (explanation : String)
  deriving DecidableEq

def FileFault.message : FileFault → String
  | .notFound => "No such file or directory (os error 2)"
  | .denied => "Permission denied (os error 13)"
  | .busy => "Device or resource busy (os error 16)"
  | .alreadyExists => "File exists (os error 17)"
  | .notDirectory => "Not a directory (os error 20)"
  | .isDirectory => "Is a directory (os error 21)"
  | .notText => "stream did not contain valid UTF-8"
  | .other explanation => explanation

end Stencil
