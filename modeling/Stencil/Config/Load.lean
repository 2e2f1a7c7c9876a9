import Stencil.Config.Codec
import Stencil.Files.Access

/-!
# Where configurations come from
-/
namespace Stencil

namespace Environment

/-- An environment variable, if it is set. -/
def get? (name : String) : Job (Option String) := do
  match ← Job.perform (.environment name) with
  | none => return none
  | some (.text s) => return some s
  | some (.binary _) => throw (.notText name)

/-- An environment variable that has to be set. -/
def required (name : String) : Job String := do
  match ← get? name with
  | some s => return s
  | none => throw (.missingVariable name)

/-- An environment variable, or what stands in for it. -/
def getOr (name : String) (fallback : Option String) : Job String := do
  match ← get? name with
  | some s => return s
  | none =>
    match fallback with
    | some s => return s
    | none => throw (.noFallback name)

end Environment

namespace Config

def ofFile (path : String) : Job Config := do
  match ofJson? (← Job.readText path) with
  | some config => return config
  | none => throw (.within (.readConfig path) .json)

/-- The configuration file the environment names, or the defaults, with what the
environment says over it. -/
def ofEnvironment : Job Config := do
  let config ← match ← Environment.get? "REDLINE_CONFIG" with
    | some path => ofFile path
    | none => pure {}
  let cacheDir ← Environment.required "REDLINE_CACHE_DIR"
  let tagDir := (← Environment.get? "REDLINE_TAG_DIR").or config.tagDir
  let mode ← Environment.getOr "REDLINE_CACHE_MODE" (some CacheMode.check.text)
  match CacheMode.ofText? mode with
  | some cacheMode => return { config with cacheDir, tagDir, cacheMode }
  | none => throw (.within (.interpret "REDLINE_CACHE_MODE") (.cacheMode mode))

end Config

end Stencil
