import Stencil.Dict
import Stencil.Value

/-!
# Requests

The part of an HTTP request that views and form models read.
-/
namespace Stencil

inductive Method where
  | get
  | post
  deriving DecidableEq, Inhabited

def Method.text : Method → String
  | .get => "GET"
  | .post => "POST"

/-- How an upload went. -/
inductive UploadStatus where
  | ok
  /-- Over the server's size limit. -/
  | iniSize
  /-- Over the size limit the form gave. -/
  | formSize
  | partialUpload
  | noFile
  | noTmpDir
  | cantWrite
  | extension
  deriving DecidableEq

structure Upload where
  status : UploadStatus
  size : Nat
  clientName : String
  deriving DecidableEq

structure Request where
  method : Method := .get
  /-- Submitted parameters: texts, or lists of texts for fields with several values. -/
  params : Dict Value := .empty
  /-- What the application provides: template variables and dynamic option lists. -/
  attribs : Dict Value := .empty
  files : Dict Upload := .empty
  deriving Inhabited

end Stencil
