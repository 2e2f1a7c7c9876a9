import Stencil.CompileError

/-!
# Failures of file work

A failure is a cause within contexts that say what was attempted.
-/
namespace Stencil

/-- What was attempted. -/
inductive Attempt where
  | read (path : String)
  | examine (path : String)
  | createDirectory (path : String)
  | createFile (path : String)
  | writeFile (path : String)
  | rename (source target : String)
  | list (path : String)
  | compile (source : String)
  | readView (path : String)
  | readForm (path : String)
  | findForm (template id : String)
  | readConfig (path : String)
  | loadTags
  /-- To make sense of an environment variable. -/
  | interpret (name : String)
  deriving DecidableEq

def Attempt.message : Attempt → String
  | .read path => "opening path for reading: " ++ Text.quoted path
  | .examine path => "stat of " ++ Text.quoted path
  | .createDirectory path => "creating directory " ++ Text.quoted path
  | .createFile path => "creating file " ++ Text.quoted path
  | .writeFile path => "writing file " ++ Text.quoted path
  | .rename source target => "renaming " ++ Text.quoted source ++ " to " ++ Text.quoted target
  | .list path => "listing " ++ Text.quoted path
  | .compile source => "compiling template " ++ Text.quoted source
  | .readView path => "reading view artifact " ++ Text.quoted path
  | .readForm path => "reading form artifact " ++ Text.quoted path
  | .findForm template id =>
    "template " ++ Text.quoted template ++ " has no form " ++ Text.quoted id
  | .readConfig path => "parsing config file " ++ Text.quoted path
  | .loadTags => "loading tag definitions"
  | .interpret name => name

inductive Failure where
  | compile (error : CompileError)
  /-- A text that is not JSON, or not of the expected form. -/
  | json
  | file (fault : FileFault)
  | missingTemplate (path : String)
  | noFileName (path : String)
  /-- An environment variable that is no text. -/
  | notText (name : String)
  | missingVariable (name : String)
  | noFallback (name : String)
  | cacheMode (text : String)
  | within (attempt : Attempt) (cause : Failure)
  deriving DecidableEq

namespace Failure

/-- What stands for the explanation of a fault in JSON text. -/
def jsonExplanation : String := "<json>"

/-- The contexts from the outside in, then the cause. -/
def message : Failure → String
  | .compile error => error.message
  | .json => jsonExplanation
  | .file fault => fault.message
  | .missingTemplate path => "template " ++ Text.quoted path ++ " does not exist"
  | .noFileName path => "path has no file name: " ++ Text.quoted path
  | .notText name => Text.quoted name ++ " env var is not unicode"
  | .missingVariable name => "missing env var " ++ Text.quoted name
  | .noFallback name =>
    Text.quoted name ++ " env var is missing and no default provided"
  | .cacheMode text =>
    "invalid cache mode " ++ Text.quoted text ++ ", expecting one of imply|check|force"
  | .within attempt cause => attempt.message ++ ": " ++ cause.message

/-- What is at the bottom of a failure. -/
def cause : Failure → Failure
  | .within _ inner => inner.cause
  | failure => failure

end Failure

end Stencil
