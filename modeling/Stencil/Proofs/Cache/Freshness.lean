import Stencil.Proofs.Cache.Checks
import Stencil.Proofs.Cache.Events
import Stencil.Proofs.Cache.Storing
import Stencil.Proofs.View.Codec

/-!
# Fresh views

A stored view that is not older than its template is that of the text the template has. This
holds behind every edit and every load, so a load gives what compiling the text gives.

The tree of files stands for the working directory: absolute paths lie outside of it, and no
name is refused for its characters (`FileTree.target`).
-/
namespace Stencil

/-- What a load gives for a template whose text was compiled to this. -/
def Answer.Serves (answer : Answer) : Except CompileError Compiled → Prop
  | .ok output => output.view.encode.depth ≤ 127 → answer.result = .ok output.view
  | .error error => answer.result = .error (.within (.compile answer.template) (.compile error))

namespace Compiler

/-- What compiling the text a template has gives at each load, without a cache. -/
def direct (compiler : Compiler) (template : String) :
    String → List Event → List (Except CompileError Compiled)
  | _, [] => []
  | _, .edit _ text :: rest => compiler.direct template text rest
  | text, .load _ :: rest =>
    compiler.compileText template text :: compiler.direct template text rest

/-- The forms of a text are stored side by side. -/
def FormsFlat (compiler : Compiler) (template text : String) : Prop :=
  ∀ output, compiler.compileText template text = .ok output →
    ∀ form ∈ output.forms, '/' ∉ form.id.toList

/-- Where the view of a template is stored. -/
def viewKey (address : Cache.Address) (template : String) : String :=
  address.key (address.names ++ ["templates"] ++ [Cache.viewName template])

/-- A template holds a text it was given at some time, and a view that was stored since then is
that of the text. -/
structure Current (compiler : Compiler) (address : Cache.Address) (template text : String)
    (written : Time) (world : World) : Prop where
  ready : address.Ready world
  held : world.files.find template = .ok (.file (.text text) written)
  stored : ∀ content time,
    world.files.entries.get? (viewKey address template) = some (.file content time) →
      time < world.files.clock ∧ (written ≤ time → ∃ output,
        compiler.compileText template text = .ok output ∧ content = .text output.view.toJson)

section

variable {compiler : Compiler} {address : Cache.Address} {template text : String} {written : Time}
  {world : World}

private theorem holds_view (address : Cache.Address) (template : String) :
    address.Holds (address.names ++ ["templates"] ++ [Cache.viewName template]) .file :=
  .file (.inl rfl) (Cache.isName_viewName template)

/-- The template does not lie where the cache keeps files. -/
def Apart (address : Cache.Address) (template : String) : Prop :=
  ∀ place, FileTree.placeOf? template = some place →
    ∀ rest, address.Holds rest .file → place ≠ address.key rest

/-- Work on the cache leaves the template alone. -/
theorem find_of_follows {after : World} (apart : Apart address template)
    (ready : address.Ready world) (follows : address.Follows world after)
    (held : world.files.find template = .ok (.file (.text text) written)) :
    after.files.find template = .ok (.file (.text text) written) := by
  refine FileTree.find_of_stay (fun place time there => ?_) held fun place leads there => ?_
  · refine follows.stay place _ there fun rest holds same => ?_
    exact ready.layout.noDirectory holds time (same ▸ there)
  · exact follows.stay place _ there (apart place leads)

/-- A task behind which the view of the text is stored, or which fails if the text does not
compile. -/
def Settles {α : Type} (compiler : Compiler) (address : Cache.Address) (template text : String)
    (task : Job α) (before after : World) : Prop :=
  match compiler.compileText template text with
  | .ok output => (∃ result, task.runIn before = (.ok result, after)) ∧
      ∃ time, after.files.entries.get? (viewKey address template)
        = some (.file (.text output.view.toJson) time)
  | .error error =>
    task.runIn before = (.error (.within (.compile template) (.compile error)), after)

namespace Current

variable (current : Current compiler address template text written world)
include current

/-- The view that is stored behind some work on the cache is that of the text. -/
private theorem of_follows {after : World} (apart : Apart address template)
    (follows : address.Follows world after)
    (stored : ∀ content time,
      after.files.entries.get? (viewKey address template) = some (.file content time) →
        time < after.files.clock ∧ ∃ output,
          compiler.compileText template text = .ok output ∧ content = .text output.view.toJson) :
    Current compiler address template text written after where
  ready := follows.ready
  held := find_of_follows apart current.ready follows current.held
  stored := by
    intro content time there
    obtain ⟨before, fresh⟩ := stored content time there
    exact ⟨before, fun _ => fresh⟩

/-- A template is edited: what is stored is older than its new text. -/
theorem edit (apart : Apart address template) (new : String) :
    Current compiler address template new world.files.clock
      (compiler.after world (.edit template new)) := by
  obtain ⟨place, leads, there, written, found⟩ :=
    FileTree.write_of_find current.held (.text new)
  have noDirectory : NoDirectory (world.files.entries.get? place) := by
    rw [there]
    exact noDirectory_file _ _
  have changed : compiler.after world (.edit template new)
      = { world with files := world.files.put place (.file (.text new)) } := by
    rw [Compiler.after, World.perform, written]
    rfl
  rw [changed]
  refine ⟨⟨current.ready.staging, ?_⟩, found, fun content time stored => ?_⟩
  · refine current.ready.layout.insert noDirectory (fun rest kind holds here => ?_) rfl
    -- A template is a file, so its place is none of a directory of the cache.
    rw [← here] at there
    obtain ⟨isFile, -⟩ := current.ready.layout.entries rest kind _ holds there
    cases isFile
    exact absurd here.symm (apart place leads rest holds)
  · have other : viewKey address template ≠ place :=
      (apart place leads _ (holds_view address template)).symm
    rw [FileTree.put, Dict.get?_insert, if_neg other] at stored
    have before := (current.stored content time stored).1
    refine ⟨Int.lt_trans before (Int.lt_succ _), fun later => ?_⟩
    exact absurd before (Int.not_lt.mpr later)

private theorem run_readTemplate : (Job.readText template).runIn world = (.ok text, world) := by
  rw [Job.runIn_readText, FileTree.read, current.held]
  rfl

variable (lies : compiler.config.cacheDir = address.cacheDir)
include lies

/-- Of a text that does not compile no view stays. -/
theorem run_compileFile_error {error : CompileError}
    (fails : compiler.compileText template text = .error error) (apart : Apart address template) :
    ∃ after, Current compiler address template text written after ∧
      (compiler.compileFile template).runIn world
        = (.error (.within (.compile template) (.compile error)), after) := by
  obtain ⟨between, removed, follows, gone⟩ :=
    Cache.Address.run_removeStale (holds_view address template) current.ready
  obtain ⟨after, cleared, follows'⟩ := does_removeForms lies template [] between follows.ready
  -- Clearing the forms makes no file.
  have stillGone : after.files.entries.get? (viewKey address template) = none := by
    let law : Law := fun place entry => place = viewKey address template → entry = none
    have keeps : (compiler.removeForms template []).Keeps law := by
      refine (steady_removeForms (fun id _ => ?_) []).keeps
      intro place entry _ _ _ _
      rfl
    have obeys := keeps between ⟨follows.ready.staging, fun place same => same ▸ gone⟩
    rw [cleared] at obeys
    exact obeys.entries _ rfl
  refine ⟨after, current.of_follows apart (follows.trans follows') fun content time there => ?_, ?_⟩
  · rw [stillGone] at there
    cases there
  · rw [compileFile, Job.runIn_bind_of_ok current.run_readTemplate, fails]
    dsimp only
    rw [viewPath_address lies, Job.runIn_bind_of_ok removed, Job.runIn_bind_of_ok cleared]
    rfl

/-- Of a text that compiles the view is stored last. -/
theorem run_compileFile_ok {output : Compiled}
    (compiles : compiler.compileText template text = .ok output) (apart : Apart address template)
    (flat : ∀ form ∈ output.forms, '/' ∉ form.id.toList) :
    ∃ after time, Current compiler address template text written after ∧
      (compiler.compileFile template).runIn world = (.ok output, after) ∧
      after.files.entries.get? (viewKey address template)
        = some (.file (.text output.view.toJson) time) := by
  obtain ⟨cleared, clear, follows⟩ :=
    does_removeForms lies template (output.forms.map Form.id) world current.ready
  obtain ⟨filled, fill, follows'⟩ := does_storeForms lies template flat cleared follows.ready
  obtain ⟨after, time, store, follows'', -, before, there⟩ :=
    Cache.Address.run_writeAtomic (.inl rfl) (Cache.isName_viewName template)
      (.text output.view.toJson) follows'.ready
  have whole := follows.trans (follows'.trans follows'')
  refine ⟨after, time, current.of_follows apart whole fun content time' there' => ?_, ?_, there⟩
  · -- The view that is stored is the one of the text, and newer than it.
    cases there.symm.trans there'
    exact ⟨before, output, compiles, rfl⟩
  · rw [compileFile, Job.runIn_bind_of_ok current.run_readTemplate, compiles]
    dsimp only
    rw [Job.runIn_bind_of_ok clear, Job.runIn_bind_of_ok fill, viewPath_address lies,
      Job.runIn_bind_of_ok store]
    rfl

private theorem find_view : world.files.find (compiler.viewPath template) =
    match world.files.entries.get? (viewKey address template) with
    | some entry => .ok entry
    | none => .error .notFound := by
  rw [viewPath_address lies]
  exact current.ready.layout.find_path (holds_view address template)

/-- A view that is missing or older than its template is compiled. -/
theorem run_needsCompile (mode : compiler.config.cacheMode = .check) :
    (Cache.needsCompile compiler.config.cacheMode template (compiler.viewPath template)).runIn world
      = (.ok (match world.files.entries.get? (viewKey address template) with
        | none => true
        | some stored => written > stored.modified), world) := by
  have time : (Cache.modified? template).runIn world = (.ok (some written), world) := by
    rw [Cache.runIn_modified?, current.held]
    rfl
  have stored : (Cache.modified? (compiler.viewPath template)).runIn world
      = (.ok ((world.files.entries.get? (viewKey address template)).map FileEntry.modified),
        world) := by
    rw [Cache.runIn_modified?, current.find_view lies]
    cases world.files.entries.get? (viewKey address template) <;> rfl
  rw [Cache.needsCompile, mode, if_neg (by decide), Job.runIn_bind_of_ok stored]
  cases world.files.entries.get? (viewKey address template) with
  | none => rfl
  | some entry =>
    dsimp only [Option.map_some]
    rw [if_neg (by decide), Job.runIn_bind_of_ok time]
    rfl

/-- Behind a check the view of the text is stored, unless the text does not compile. -/
theorem ensureCompiled_settles (mode : compiler.config.cacheMode = .check)
    (apart : Apart address template) (flat : compiler.FormsFlat template text) :
    ∃ after, Current compiler address template text written after ∧
      Settles compiler address template text (compiler.ensureCompiled template) world after := by
  have checked := current.run_needsCompile lies mode
  by_cases fresh : ∃ entry, world.files.entries.get? (viewKey address template) = some entry ∧
      written ≤ entry.modified
  · obtain ⟨entry, there, later⟩ := fresh
    obtain ⟨content, time, rfl⟩ :=
      current.ready.layout.exists_file (holds_view address template) there
    obtain ⟨output, compiles, rfl⟩ := (current.stored content time there).2 later
    have good : (Cache.needsCompile compiler.config.cacheMode template
        (compiler.viewPath template)).runIn world = (.ok false, world) := by
      rw [checked, there]
      exact Prod.ext (congrArg Except.ok (decide_eq_false (Int.not_lt.mpr later))) rfl
    refine ⟨world, current, ?_⟩
    rw [Settles, compiles]
    exact ⟨⟨false, by rw [ensureCompiled, Job.runIn_bind_of_ok good]; rfl⟩, time, there⟩
  · have needed : (Cache.needsCompile compiler.config.cacheMode template
        (compiler.viewPath template)).runIn world = (.ok true, world) := by
      rw [checked]
      cases there : world.files.entries.get? (viewKey address template) with
      | none => rfl
      | some entry =>
        have older : entry.modified < written :=
          Int.not_le.mp fun later => fresh ⟨entry, there, later⟩
        simp [older]
    -- Only the warnings differ from the world before.
    let warned := (world.perform (.warn ("compiling " ++ Text.quoted template ++ " to "
      ++ Text.quoted (compiler.viewPath template)))).2
    have current' : Current compiler address template text written warned :=
      ⟨⟨current.ready.staging, current.ready.layout⟩, current.held, current.stored⟩
    have compiling : (compiler.ensureCompiled template).runIn world
        = (compiler.compileFile template >>= fun _ => pure true).runIn warned := by
      rw [ensureCompiled, Job.runIn_bind_of_ok needed, if_pos rfl,
        Job.runIn_bind_of_ok (Job.runIn_perform world _)]
    cases compiled : compiler.compileText template text with
    | ok output =>
      obtain ⟨after, time, current'', ran, there⟩ :=
        current'.run_compileFile_ok lies compiled apart (flat output compiled)
      refine ⟨after, current'', ?_⟩
      rw [Settles, compiled, compiling]
      exact ⟨⟨true, by rw [Job.runIn_bind_of_ok ran]; rfl⟩, time, there⟩
    | error error =>
      obtain ⟨after, current'', ran⟩ := current'.run_compileFile_error lies compiled apart
      refine ⟨after, current'', ?_⟩
      rw [Settles, compiled, compiling]
      exact Job.runIn_bind_of_error ran

/-- A load gives the view of the text the template has, and leaves it so. -/
theorem load (mode : compiler.config.cacheMode = .check) (apart : Apart address template)
    (flat : compiler.FormsFlat template text) :
    Current compiler address template text written (compiler.after world (.load template)) ∧
      Answer.Serves ⟨template, world, ((compiler.loadView template).runIn world).1⟩
        (compiler.compileText template text) := by
  -- A load sees to it that the stored view is the one of the text, and then reads it.
  obtain ⟨after, current', settles⟩ := current.ensureCompiled_settles lies mode apart flat
  rw [Compiler.after, loadView]
  unfold Settles at settles
  cases compiled : compiler.compileText template text with
  | error error =>
    rw [compiled] at settles
    rw [Job.runIn_bind_of_error settles]
    exact ⟨current', rfl⟩
  | ok output =>
    rw [compiled] at settles
    obtain ⟨⟨made, ran⟩, time, there⟩ := settles
    have read : (Job.readText (compiler.viewPath template)).runIn after
        = (.ok output.view.toJson, after) := by
      rw [Job.runIn_readText, FileTree.read, current'.find_view lies, there]
      rfl
    rw [Job.runIn_bind_of_ok ran, Job.runIn_bind_of_ok read]
    constructor
    · cases View.ofJson? output.view.toJson <;> exact current'
    · -- The view reads back as it was written, since its literals are constants.
      intro shallow
      obtain ⟨site, grown, -⟩ := compileTemplate_grows compiled
      have back : View.ofJson? output.view.toJson = some output.view :=
        View.ofJson?_toJson (fun _ within _ stands => grown.isConstant within stands) shallow
      rw [back]
      rfl

/-- In the course of edits and loads of one template each load gives what compiling the text
that is there then gives. -/
private theorem forall₂_serves {events : List Event} (mode : compiler.config.cacheMode = .check)
    (apart : Apart address template) (single : ∀ event ∈ events, event.template = template)
    (flat : ∀ new, new = text ∨ .edit template new ∈ events → compiler.FormsFlat template new) :
    List.Forall₂ Answer.Serves (compiler.answers world events)
      (compiler.direct template text events) := by
  -- The text and its time change with each edit, and the world with each event.
  induction events generalizing text written world with
  | nil => exact .nil
  | cons event rest ih =>
    have single' : ∀ event ∈ rest, event.template = template :=
      fun other member => single other (List.mem_cons_of_mem event member)
    obtain rfl := single event List.mem_cons_self
    cases event with
    | edit template new =>
      refine ih (current.edit apart new) single' fun other known => flat other (.inr ?_)
      rcases known with rfl | later
      · exact List.mem_cons_self
      · exact List.mem_cons_of_mem _ later
    | load template =>
      obtain ⟨current', serves⟩ := current.load lies mode apart (flat text (.inl rfl))
      refine .cons serves (ih current' single' fun other known => flat other ?_)
      exact known.imp id (List.mem_cons_of_mem _)

end Current

/-- No stale view is served: with an empty cache to begin with, in every run of edits and loads
of one template each load gives the view of the text the template has then, or fails as
compiling that text does. -/
theorem answers_serve {events : List Event} (mode : compiler.config.cacheMode = .check)
    (lies : compiler.config.cacheDir = address.cacheDir)
    (staging : '/' ∉ world.stagingId.toList) (vacant : address.Vacant world.files)
    (held : world.files.find template = .ok (.file (.text text) written))
    (single : ∀ event ∈ events, event.template = template)
    (flat : ∀ new, new = text ∨ .edit template new ∈ events → compiler.FormsFlat template new) :
    List.Forall₂ Answer.Serves (compiler.answers world events)
      (compiler.direct template text events) := by
  have current : Current compiler address template text written world := {
    ready := ⟨staging, vacant.layout⟩
    held := held
    stored := by
      intro content time there
      rw [viewKey, vacant.free _ _ (holds_view address template)] at there
      cases there }
  -- The template lies in none of the places of the cache, which are free.
  have apart : Apart address template := by
    rintro place leads rest holds rfl
    obtain ⟨lies, leads', there⟩ := FileTree.placeOf?_of_find held
    obtain rfl := Option.some.inj (leads'.symm.trans leads)
    rw [vacant.free rest _ holds] at there
    cases there
  exact current.forall₂_serves lies mode apart single flat

end

/-- A text that does not compile comes and goes; in the end a stored view is used again. -/
theorem answers_serve_fixed :
    let compiler : Compiler := ⟨{}, .builtin⟩
    let world := World.holding [("t.tpl", "one")]
    let events : List Event := [.load "t.tpl", .edit "t.tpl" "<form:text id=\"x\"/>", .load "t.tpl",
      .edit "t.tpl" "<form:form id=\"f\"></form:form>", .load "t.tpl", .load "t.tpl"]
    List.Forall₂ Answer.Serves (compiler.answers world events)
        (compiler.direct "t.tpl" "one" events) ∧
      (compiler.direct "t.tpl" "one" events).map
          (fun compiled => compiled.toOption.map fun output => output.forms.map Form.id)
        = [some [], none, some ["f"], some ["f"]] := by
  intro compiler world events
  let address : Cache.Address := {
    base := ""
    around := []
    clean := nofun
    names := ["cache"]
    areNames := by
      intro name member
      obtain rfl := List.mem_singleton.mp member
      exact ⟨by decide, by decide, by decide, by decide⟩ }
  have evaluated : (compiler.direct "t.tpl" "one" events).map
      (fun compiled => compiled.toOption.map fun output => output.forms.map Form.id)
        = [some [], none, some ["f"], some ["f"]] := by decide +kernel
  have only : world.files = ⟨Dict.empty.insert "t.tpl" (.file (.text "one") 0), 0⟩ := by rfl
  have vacant : address.Vacant world.files := by
    refine ⟨by rfl, fun rest kind holds => ?_⟩
    have other : address.key rest ≠ "t.tpl" := by
      intro same
      obtain ⟨first, more, rfl⟩ := List.exists_cons_of_ne_nil holds.ne_nil
      have noSlash := fun part member => (holds.areNames part member).noSlash
      have alone : first :: more = ["t.tpl"] :=
        FileTree.key_injective (by simp) (by simp) noSlash (by decide) same
      obtain ⟨rfl, rfl⟩ := by simpa using alone
      generalize whole : ["t.tpl"] = rest at holds
      cases holds with
      | directory _ _ onWay => simp [← whole, address] at onWay
      | file _ _ => simp [address] at whole
    rw [only, Dict.get?_insert, if_neg other]
    rfl
  have flat (new : String) (known : new = "one" ∨ .edit "t.tpl" new ∈ events) :
      compiler.FormsFlat "t.tpl" new := by
    have evaluated : ∀ new ∈ ["one", "<form:text id=\"x\"/>", "<form:form id=\"f\"></form:form>"],
        (compiler.compileText "t.tpl" new).toOption.all (fun output =>
          output.forms.all fun form => '/' ∉ form.id.toList) = true := by decide +kernel
    intro output compiles form member
    have all := evaluated new (by simpa [events] using known)
    rw [compiles] at all
    exact of_decide_eq_true (List.all_eq_true.mp all form member)
  have held : world.files.find "t.tpl" = .ok (.file (.text "one") 0) := by rfl
  exact ⟨answers_serve rfl rfl (by decide) vacant held (by decide) flat, evaluated⟩

end Compiler

end Stencil
