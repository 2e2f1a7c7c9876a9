import Stencil.Cache
import Stencil.Form.Codec
import Stencil.Registry.Discover
import Stencil.Template
import Stencil.View.Codec

/-!
# Compiling templates through the cache

Stored views and forms of a template are made anew when they are out of date. Of a
template that does not compile nothing stays in the cache, and of forms it no longer
has neither.
-/
namespace Stencil

structure Compiler where
  config : Config
  registry : Registry

namespace Compiler

/-- A compiler with the tags of the configured directory, or all built-in ones. -/
def ofConfig (config : Config) : Job Compiler := do
  match config.tagDir with
  | some directory => return ⟨config, ← Registry.discover directory⟩
  | none => return ⟨config, .builtin⟩

/-- Compile a text as the template of this name, without the cache. -/
def compileText (compiler : Compiler) (source text : String) : Except CompileError Compiled :=
  compileTemplate ⟨compiler.registry, compiler.config, source⟩ text

def viewPath (compiler : Compiler) (source : String) : String :=
  Cache.viewPath compiler.config.cacheDir source

def formPath (compiler : Compiler) (source id : String) : String :=
  Cache.formPath compiler.config.cacheDir source id

/-- Remove a stored file; it is no failure if that does not work. -/
def removeStale (path : String) : Job Unit := do
  match ← Job.perform (.remove path) with
  | .ok _ => Job.perform (.warn ("removed stale artifact " ++ Text.quoted path))
  | .error .notFound => return ()
  | .error fault =>
    Job.perform (.warn ("could not remove stale artifact " ++ Text.quoted path ++ ": "
      ++ fault.message))

/-- Remove what an entry of the directory of forms stores for a template, unless it is
a form to keep. -/
def removeEntry (compiler : Compiler) (source : String) (keep : List String)
    (entry : String × FileKind) : Job Unit := do
  if entry.2 != .file then return ()
  match Cache.formId? source entry.1 with
  | none => return ()
  | some id =>
    if keep.contains id then return () else removeStale (compiler.formPath source id)

/-- Remove the stored forms of a template but for some. -/
def removeForms (compiler : Compiler) (source : String) (keep : List String) : Job Unit := do
  let directory := Cache.formsDirectory compiler.config.cacheDir
  match ← Job.perform (.list directory) with
  | .error .notFound => return ()
  | .error fault => throw (.within (.list directory) (.file fault))
  | .ok entries => entries.forM (compiler.removeEntry source keep)

def storeForm (compiler : Compiler) (source : String) (form : Form) : Job Unit :=
  Job.writeAtomic (compiler.formPath source form.id) (.text form.toJson)

/-- Compile a template and store its forms and then its view. -/
def compileFile (compiler : Compiler) (path : String) : Job Compiled := do
  let text ← Job.readText path
  match compiler.compileText path text with
  | .error error =>
    removeStale (compiler.viewPath path)
    compiler.removeForms path []
    throw (.within (.compile path) (.compile error))
  | .ok output =>
    compiler.removeForms path (output.forms.map Form.id)
    output.forms.forM (compiler.storeForm path)
    Job.writeAtomic (compiler.viewPath path) (.text output.view.toJson)
    return output

/-- Compile a template unless what is stored is still good. Tells whether it was
compiled. -/
def ensureCompiled (compiler : Compiler) (path : String) : Job Bool := do
  let stored := compiler.viewPath path
  if ← Cache.needsCompile compiler.config.cacheMode path stored then
    Job.perform (.warn ("compiling " ++ Text.quoted path ++ " to " ++ Text.quoted stored))
    let _ ← compiler.compileFile path
    return true
  else return false

/-- The view of a template. -/
def loadView (compiler : Compiler) (path : String) : Job View := do
  let _ ← compiler.ensureCompiled path
  let stored := compiler.viewPath path
  match View.ofJson? (← Job.readText stored) with
  | some view => return view
  | none => throw (.within (.readView stored) .json)

/-- A form of a template. -/
def loadForm (compiler : Compiler) (path id : String) : Job Form := do
  let _ ← compiler.ensureCompiled path
  let stored := compiler.formPath path id
  let text ← Job.within (.findForm path id) (Job.readText stored)
  match Form.ofJson? text with
  | some form => return form
  | none => throw (.within (.readForm stored) .json)

end Compiler

end Stencil
