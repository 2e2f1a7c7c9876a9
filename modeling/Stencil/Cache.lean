import Stencil.Config
import Stencil.Files.Access

/-!
# Where compiled templates are stored

The view of a template and each of its forms have a file of their own in the cache
directory.
-/
namespace Stencil.Cache

/-- The text without any `./` at its start. -/
def dropDots : List Char → List Char
  | '.' :: '/' :: rest => dropDots rest
  | path => path

/-- A template path as a single file name. -/
def flatName (path : String) : String :=
  String.ofList ((dropDots path.toList).map fun c => if c = '/' ∨ c = '\\' then '_' else c)

/-- Where the view of a template is stored. -/
def viewPath (cacheDir source : String) : String :=
  Path.join (Path.join cacheDir "templates") (flatName source ++ ".json")

def formsDirectory (cacheDir : String) : String := Path.join cacheDir "forms"

/-- What the files of a template's forms have in common at their start. -/
def formPrefix (source : String) : String := flatName source ++ "_"

/-- Where a form of a template is stored. -/
def formPath (cacheDir source id : String) : String :=
  Path.join (formsDirectory cacheDir) (formPrefix source ++ id ++ ".json")

/-- The text before a given end. -/
def beforeEnd? (ending text : List Char) : Option (List Char) :=
  (Text.afterStart? ending.reverse text.reverse).map List.reverse

/-- The id of the form that is stored in a file, if it is one of this template. -/
def formId? (source fileName : String) : Option String := do
  let rest ← Text.afterStart? (formPrefix source).toList fileName.toList
  return String.ofList (← beforeEnd? ".json".toList rest)

/-- The time of a file, if there is one. -/
def modified? (path : String) : Job (Option Time) := do
  match ← Job.perform (.modified path) with
  | .ok time => return some time
  | .error .notFound => return none
  | .error fault => throw (.within (.examine path) (.file fault))

/-- Whether a stored view has to be made again from its template. -/
def needsCompile (mode : CacheMode) (template stored : String) : Job Bool := do
  if mode = .force then return true
  match ← modified? stored with
  | none => return true
  | some storedTime =>
    if mode = .imply then return false
    match ← modified? template with
    | none => throw (.missingTemplate template)
    | some time => return time > storedTime

end Stencil.Cache
