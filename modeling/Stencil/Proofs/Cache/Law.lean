import Stencil.Compiler
import Stencil.Proofs.Cache.Places
import Stencil.Proofs.Files.Law

/-!
# Laws that compiling through the cache keeps

A compile removes the view and forms of its template, makes directories and puts staging files
wherever it likes, and writes what the template was compiled to. A law on files that leaves it
all this holds behind every compile.
-/
namespace Stencil

/-- A law that compiling a template may break only by what it writes. -/
structure Law.Suits (law : Law) (compiler : Compiler) (source : String) : Prop where
  makes : law.Makes
  frees : ∀ base name id, '/' ∉ name.toList → '/' ∉ id.toList →
    law.Frees (Path.join base (Job.stagingName name id))
  removesView : law.Removes (compiler.viewPath source)
  removesForm : ∀ id, '/' ∉ id.toList → law.Removes (compiler.formPath source id)

/-- What a template was compiled to may be written. -/
structure Law.TakesOutput (law : Law) (compiler : Compiler) (source : String) (output : Compiled) :
    Prop where
  view : law.Takes (compiler.viewPath source) (.text output.view.toJson)
  form : ∀ form ∈ output.forms, law.Takes (compiler.formPath source form.id) (.text form.toJson)

variable {law : Law} {stop : Action → Prop} {compiler : Compiler} {source : String}

/-- A file is written where the staging file of any path may lie. -/
theorem Law.Suits.admits (suits : law.Suits compiler source) {path : String} {content : Content}
    (takes : law.Takes path content) : law.Admits stop path content where
  makes := fun directory _ => suits.makes.at directory
  frees := fun name id named noSlash =>
    suits.frees _ name id (Path.noSlash_of_fileName? named) noSlash
  takes := fun _ _ => takes

namespace Compiler

theorem viewPath_eq (compiler : Compiler) (source : String) : compiler.viewPath source
    = Path.join (Path.join compiler.config.cacheDir "templates") (Cache.viewName source) := rfl

theorem formPath_eq (compiler : Compiler) (source id : String) : compiler.formPath source id
    = Path.join (Path.join compiler.config.cacheDir "forms") (Cache.formName source id) := rfl

private theorem steady_removeStale {path : String} (removes : law.Removes path) :
    (removeStale path).Steady stop law := by
  refine Job.Steady.bind ?_ fun result => ?_
  · exact Job.steady_perform fun _ _ obeys => obeys.remove removes
  · split
    · exact Job.steady_warn _
    · exact Job.steady_pure ()
    · exact Job.steady_warn _

/-- Only a file that is named as a form of the template is removed. -/
theorem steady_removeEntry
    (removes : ∀ id, '/' ∉ id.toList → law.Removes (compiler.formPath source id))
    (keep : List String) {entry : String × FileKind} (noSlash : '/' ∉ entry.1.toList) :
    (compiler.removeEntry source keep entry).Steady stop law := by
  unfold removeEntry
  split
  · exact Job.steady_pure ()
  · split
    · exact Job.steady_pure ()
    · next id ofTemplate =>
      split
      · exact Job.steady_pure ()
      · refine steady_removeStale (removes id fun slash => noSlash ?_)
        rw [Cache.formId?_eq_some.mp ofTemplate, Cache.formName]
        simp [slash]

theorem steady_removeForms
    (removes : ∀ id, '/' ∉ id.toList → law.Removes (compiler.formPath source id))
    (keep : List String) : (compiler.removeForms source keep).Steady stop law := by
  intro world obeys
  -- Only names without a slash are listed.
  refine .step obeys fun _ => ?_
  dsimp only [World.perform]
  cases listed : world.files.list (Cache.formsDirectory compiler.config.cacheDir) with
  | error fault =>
    cases fault <;> exact .done obeys
  | ok entries =>
    refine Job.steady_forM (fun entry member => ?_) world obeys
    exact steady_removeEntry removes keep (FileTree.noSlash_of_list listed member)

/-- Reading changes nothing, so what is done with a text is done where it was read. -/
theorem abides_readText {α : Type} {path : String} {next : String → Job α} {world : World}
    (obeys : world.Obeys law)
    (abides : ∀ text, world.files.read path = .ok (.text text) →
      (next text).run.Abides stop law world) :
    (Job.readText path >>= next).run.Abides stop law world := by
  refine .step obeys fun _ => ?_
  dsimp only [World.perform]
  cases held : world.files.read path with
  | error fault => exact .done obeys
  | ok content =>
    cases content with
    | binary bytes => exact .done obeys
    | text text => exact abides text held

/-- A law stays while a template is compiled if what is stored may be removed and all that is
written may be. -/
theorem abides_compileFile {world : World} (removesView : law.Removes (compiler.viewPath source))
    (removesForm : ∀ id, '/' ∉ id.toList → law.Removes (compiler.formPath source id))
    (admits : ∀ text output, world.files.read source = .ok (.text text) →
      compiler.compileText source text = .ok output →
        (∀ form ∈ output.forms,
          law.Admits stop (compiler.formPath source form.id) (.text form.toJson)) ∧
        law.Admits stop (compiler.viewPath source) (.text output.view.toJson))
    (obeys : world.Obeys law) : (compiler.compileFile source).run.Abides stop law world := by
  refine abides_readText obeys fun text held => ?_
  cases compiled : compiler.compileText source text with
  | error error =>
    refine Job.Steady.bind (steady_removeStale removesView) (fun _ => ?_) world obeys
    exact (steady_removeForms removesForm []).bind fun _ => Job.steady_throw _
  | ok output =>
    obtain ⟨forms, view⟩ := admits text output held compiled
    refine Job.Steady.bind (steady_removeForms removesForm _) (fun _ => ?_) world obeys
    refine Job.Steady.bind (Job.steady_forM fun form member => ?_) fun _ => ?_
    · exact Job.steady_writeAtomic (forms form member)
    · exact (Job.steady_writeAtomic view).bind fun _ => Job.steady_pure output

theorem obeys_compileFile {world : World} (suits : law.Suits compiler source)
    (takes : ∀ text output, world.files.read source = .ok (.text text) →
      compiler.compileText source text = .ok output → law.TakesOutput compiler source output)
    (obeys : world.Obeys law) : ((compiler.compileFile source).runIn world).2.Obeys law := by
  refine Program.Abides.run (abides_compileFile suits.removesView suits.removesForm ?_ obeys)
  intro text output held compiled
  have written := takes text output held compiled
  exact ⟨fun form member => suits.admits (written.form form member), suits.admits written.view⟩

private theorem steady_modified? (path : String) : (Cache.modified? path).Steady stop law := by
  refine Job.Steady.bind (Job.steady_perform fun _ _ obeys => obeys) fun result => ?_
  split
  · exact Job.steady_pure _
  · exact Job.steady_pure _
  · exact Job.steady_throw _

private theorem steady_needsCompile (mode : CacheMode) (template stored : String) :
    (Cache.needsCompile mode template stored).Steady stop law := by
  unfold Cache.needsCompile
  split
  · exact Job.steady_pure _
  · refine (steady_modified? stored).bind fun storedTime => ?_
    split
    · exact Job.steady_pure _
    · split
      · exact Job.steady_pure _
      · refine (steady_modified? template).bind fun time => ?_
        split
        · exact Job.steady_throw _
        · exact Job.steady_pure _

section

variable (suits : law.Suits compiler source)
  (takes : ∀ text output, compiler.compileText source text = .ok output →
    law.TakesOutput compiler source output)
include suits takes

private theorem steady_ensureCompiled : (compiler.ensureCompiled source).Steady stop law := by
  refine (steady_needsCompile _ _ _).bind fun needed => ?_
  cases needed with
  | false => exact Job.steady_pure _
  | true =>
    refine (Job.steady_warn _).bind fun _ => Job.Steady.bind ?_ fun _ => Job.steady_pure _
    intro world obeys
    refine abides_compileFile suits.removesView suits.removesForm ?_ obeys
    intro text output _ compiled
    have written := takes text output compiled
    exact ⟨fun form member => suits.admits (written.form form member), suits.admits written.view⟩

/-- Asking for a view keeps each law that compiling its template keeps. -/
theorem keeps_loadView : (compiler.loadView source).Keeps law := by
  apply Job.Steady.keeps
  refine (steady_ensureCompiled suits takes).bind fun _ =>
    (Job.steady_readText _).bind fun text => ?_
  cases View.ofJson? text with
  | some view => exact Job.steady_pure view
  | none => exact Job.steady_throw _

end

end Compiler

end Stencil
