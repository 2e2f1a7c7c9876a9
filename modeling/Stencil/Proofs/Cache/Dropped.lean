import Stencil.Proofs.Cache.Stored
import Stencil.Proofs.Files.Listing

/-!
# Forms that are dropped

A template is given new texts and compiled again and again. Of forms that the last text no
longer has nothing is left in the cache, and of a template that no longer compiles neither its
view nor any form. This is so for forms that are stored flatly: the clean-up lists the directory
of forms, but does not look into directories below it.

The tree of files stands for the working directory: absolute paths lie outside of it, and no
name is refused for its characters (`FileTree.target`).
-/
namespace Stencil

/-! ### Removing -/

/-- Nothing is added to a tree. -/
def FileTree.thins (tree : FileTree) : Law := fun place entry =>
  ∀ found, entry = some found → tree.entries.get? place = some found

/-- No file lies where a path leads. -/
def Law.lacks (kept : String) : Law := fun place entry =>
  FileTree.placeOf? kept = some place → ∀ content time, entry ≠ some (.file content time)

namespace FileTree

variable {tree : FileTree} {path : String}

private theorem removes_thins : tree.thins.Removes path := by
  rintro place entry - - - found ⟨⟩

private theorem thins_refl (place : String) : tree.thins place (tree.entries.get? place) :=
  fun _ there => there

/-- Where nothing was added there was a file before. -/
private theorem hasFile_of_obeys_thins {world : World} (obeys : world.Obeys tree.thins)
    (has : world.files.HasFile path) : tree.HasFile path := by
  obtain ⟨content, time, found⟩ := has
  refine ⟨content, time, find_of_stay (fun place made there => ?_) found fun place _ there => ?_⟩
  · exact obeys.entries place _ there
  · exact obeys.entries place _ there

end FileTree

private theorem Law.about_lacks (kept : String) : (Law.lacks kept).About kept where
  makes := by
    intro place time _ _ content written same
    cases same
  frees := by
    intro path apart place before after leads _ _ _ lies
    exact absurd lies (apart place leads)

private theorem not_hasFile_of_obeys_lacks {world : World} {path : String}
    (obeys : world.Obeys (.lacks path)) : ¬ world.files.HasFile path := by
  rintro ⟨content, time, found⟩
  obtain ⟨place, leads, there⟩ := FileTree.placeOf?_of_find found
  exact obeys.entries place leads content time there

namespace Compiler

variable {compiler : Compiler} {world after : World} {source path : String}

/-- The removal of a stored file never fails, and behind it there is none. -/
private theorem runIn_removeStale (path : String) (world : World) :
    ∃ after, (removeStale path).runIn world = (.ok (), after) ∧ ¬ after.files.HasFile path := by
  rw [removeStale, Job.runIn_bind, Job.runIn_perform, World.perform]
  cases removed : world.files.remove path with
  | ok files => exact ⟨_, rfl, FileTree.not_hasFile_of_remove removed⟩
  | error fault =>
    have without : ¬ world.files.HasFile path := by
      intro has
      obtain ⟨files, gone⟩ := FileTree.remove_of_hasFile has
      rw [removed] at gone
      cases gone
    cases fault <;> exact ⟨_, rfl, without⟩

private theorem runIn_removeEntry (compiler : Compiler) (source : String) (keep : List String)
    (entry : String × FileKind) (world : World) :
    ∃ after, (compiler.removeEntry source keep entry).runIn world = (.ok (), after) := by
  unfold removeEntry
  split
  · exact ⟨world, rfl⟩
  · split
    · exact ⟨world, rfl⟩
    · next id ofTemplate =>
      split
      · exact ⟨world, rfl⟩
      · obtain ⟨after, ran, -⟩ := runIn_removeStale (compiler.formPath source id) world
        exact ⟨after, ran⟩

private theorem runIn_removeEntries (compiler : Compiler) (source : String) (keep : List String)
    (entries : List (String × FileKind)) (world : World) :
    ∃ after, (entries.forM (compiler.removeEntry source keep)).runIn world = (.ok (), after) := by
  induction entries generalizing world with
  | nil => exact ⟨world, rfl⟩
  | cons entry rest ih =>
    obtain ⟨between, first⟩ := runIn_removeEntry compiler source keep entry world
    obtain ⟨after, later⟩ := ih between
    exact ⟨after, Job.runIn_bind_eq_ok.mpr ⟨(), between, first, later⟩⟩

/-- Removing forms adds nothing. -/
theorem obeys_thins_removeForms (keep : List String) (staging : '/' ∉ world.stagingId.toList) :
    ((compiler.removeForms source keep).runIn world).2.Obeys world.files.thins :=
  (steady_removeForms (fun _ _ => FileTree.removes_thins) keep).keeps world
    ⟨staging, fun _ => FileTree.thins_refl _⟩

/-- Of a template's forms only those to keep are left behind. -/
theorem not_hasFile_of_removeForms (compiler : Compiler) (source : String) {keep : List String}
    {id : String} (staging : '/' ∉ world.stagingId.toList) (noSlash : '/' ∉ id.toList)
    (dropped : id ∉ keep) :
    ¬ ((compiler.removeForms source keep).runIn world).2.files.HasFile
      (compiler.formPath source id) := by
  intro has
  -- A file that is left was there before, so it was listed.
  have had := FileTree.hasFile_of_obeys_thins (obeys_thins_removeForms keep staging) has
  have isForm := Cache.isName_formName source noSlash
  rw [formPath_eq] at had
  obtain ⟨entries, listed, member⟩ := FileTree.mem_list_of_hasFile Cache.isName_forms isForm had
  obtain ⟨after, ran⟩ := runIn_removeEntries compiler source keep entries world
  have last : ((compiler.removeForms source keep).runIn world).2 = after := by
    rw [removeForms, Job.runIn_bind, Job.runIn_perform, World.perform, Cache.formsDirectory, listed]
    exact congrArg Prod.snd ran
  rw [last] at has
  -- It was removed when its turn came, and nothing was added behind that.
  obtain ⟨front, back, rfl⟩ := List.append_of_mem member
  obtain ⟨before, behind, start, here, later⟩ := Job.runIn_forM_around.mp ran
  have gone : ¬ behind.files.HasFile (compiler.formPath source id) := by
    have unwanted : keep.contains id = false := by simpa using dropped
    simp only [removeEntry, Cache.formId?_eq_some.mpr rfl, unwanted] at here
    obtain ⟨removed, ran, without⟩ := runIn_removeStale (compiler.formPath source id) before
    cases here.symm.trans ran
    exact without
  have keeps : (back.forM (compiler.removeEntry source keep)).Keeps behind.files.thins := by
    refine (Job.steady_forM fun entry isIn => ?_).keeps
    apply steady_removeEntry fun _ _ => FileTree.removes_thins
    exact FileTree.noSlash_of_list listed (by simp [isIn])
  have staging' : '/' ∉ behind.stagingId.toList := by
    rwa [Job.stagingId_of_run here, Job.stagingId_of_run start]
  have obeys := keeps behind ⟨staging', fun _ => FileTree.thins_refl _⟩
  rw [later] at obeys
  exact gone (FileTree.hasFile_of_obeys_thins obeys has)

/-! ### One compile -/

/-- Where one form was stored flatly there is a directory of forms. -/
theorem walk_of_stored {output : Compiled} {form : Form} (member : form ∈ output.forms)
    (noSlash : '/' ∉ form.id.toList)
    (ran : (compiler.compileFile source).runIn world = (.ok output, after)) :
    ∃ spot, after.files.walk (Cache.formsDirectory compiler.config.cacheDir) = .ok spot := by
  obtain ⟨text, cleared, stored, -, -, -, store, finish⟩ := compileFile_eq_ok.mp ran
  obtain ⟨front, rest, whole⟩ := List.append_of_mem member
  rw [whole] at store
  obtain ⟨before, behind, -, here, later⟩ := Job.runIn_forM_around.mp store
  obtain ⟨time, found⟩ := Job.find_of_writeAtomic here
  have isForm := Cache.isName_formName source noSlash
  rw [formPath_eq, FileTree.find_join isForm] at found
  obtain ⟨spot, walked, -⟩ := bind_eq_ok.mp found
  exact ⟨spot, Job.walk_of_run finish (Job.walk_of_run later walked)⟩

/-- Behind a compile that succeeds there is no form that the template does not have. The
directory of forms was there before: making one of the directories around it may bring back
what was lost with it. -/
theorem not_hasFile_of_compileFile {output : Compiled} {id : String} {spot : FileTree.Spot}
    (staging : '/' ∉ world.stagingId.toList) (noSlash : '/' ∉ id.toList)
    (flat : ∀ form ∈ output.forms, '/' ∉ form.id.toList)
    (dropped : ∀ form ∈ output.forms, form.id ≠ id)
    (walked : world.files.walk (Cache.formsDirectory compiler.config.cacheDir) = .ok spot)
    (ran : (compiler.compileFile source).runIn world = (.ok output, after)) :
    ¬ after.files.HasFile (compiler.formPath source id) := by
  obtain ⟨text, cleared, stored, -, -, clear, store, finish⟩ := compileFile_eq_ok.mp ran
  have about := Law.about_lacks (compiler.formPath source id)
  -- After the cleaning the file is gone, and nothing later writes one of that name.
  have obeys : cleared.Obeys (.lacks (compiler.formPath source id)) := by
    refine ⟨by rwa [Job.stagingId_of_run clear], fun place leads content time there => ?_⟩
    have unwanted : id ∉ output.forms.map Form.id := by
      intro member
      obtain ⟨form, isIn, same⟩ := List.mem_map.mp member
      exact dropped form isIn same
    have gone := not_hasFile_of_removeForms compiler source staging noSlash unwanted
    rw [clear] at gone
    have walked := Job.walk_of_run clear walked
    rw [formPath_eq] at gone leads
    exact gone (FileTree.hasFile_join (Cache.isName_formName source noSlash) walked leads there)
  have obeys := keeps_storeForms_others about noSlash flat dropped cleared obeys
  rw [store] at obeys
  have obeys := keeps_storeView about noSlash (.text output.view.toJson) stored obeys
  rw [finish] at obeys
  exact not_hasFile_of_obeys_lacks obeys

/-- Behind a compile that fails on the text there is neither a view nor a form. -/
theorem not_hasFile_of_compileFile_error {text : String} {error : CompileError}
    {result : Except Failure Compiled} (staging : '/' ∉ world.stagingId.toList)
    (held : world.files.read source = .ok (.text text))
    (fails : compiler.compileText source text = .error error)
    (ran : (compiler.compileFile source).runIn world = (result, after)) :
    ¬ after.files.HasFile (compiler.viewPath source) ∧
      ∀ id, '/' ∉ id.toList → ¬ after.files.HasFile (compiler.formPath source id) := by
  obtain ⟨between, removed, gone⟩ := runIn_removeStale (compiler.viewPath source) world
  have staging' : '/' ∉ between.stagingId.toList := by rwa [Job.stagingId_of_run removed]
  -- All that happens behind the view's removal is that the forms are removed.
  have last : after = ((compiler.removeForms source []).runIn between).2 := by
    have read := (Job.readText_eq_ok world).mpr ⟨held, rfl⟩
    rw [compileFile, Job.runIn_bind_of_ok read, fails] at ran
    dsimp only at ran
    rw [Job.runIn_bind_of_ok removed, Job.runIn_bind] at ran
    split at ran
    · next cleared clear =>
      cases ran
      rw [clear]
    · next failure cleared clear =>
      cases ran
      rw [clear]
  subst last
  constructor
  · exact fun has =>
      gone (FileTree.hasFile_of_obeys_thins (obeys_thins_removeForms [] staging') has)
  · intro id noSlash
    exact not_hasFile_of_removeForms compiler source staging' noSlash List.not_mem_nil

/-! ### One text after the other -/

/-- A template is given one text after the other and compiled each time. No work on files
fails: each compile gives what compiling the text gives. -/
inductive Recompiled (compiler : Compiler) (template : String) (start : World) :
    List String → World → Prop where
  | start : Recompiled compiler template start [] start
  | next {texts : List String} {text : String} {before edited after : World}
      (soFar : Recompiled compiler template start texts before)
      (edits : before.perform (.write template (.text text)) = (.ok (), edited))
      (ran : (compiler.compileFile template).runIn edited
        = ((compiler.compileText template text).mapError fun error =>
            .within (.compile template) (.compile error), after)) :
      Recompiled compiler template start (texts ++ [text]) after

namespace Recompiled

variable {template text : String} {start before edited : World} {texts : List String}

/-- The template holds the text it was given. -/
theorem read_of_edits (edits : before.perform (.write template (.text text)) = (.ok (), edited)) :
    edited.files.read template = .ok (.text text) := by
  obtain ⟨files, written, rfl⟩ := World.change_eq_ok.mp edits
  exact FileTree.read_of_find (FileTree.find_of_write written)

/-- A compile that succeeds is what the text asks for. -/
private theorem next_of_ok {output : Compiled}
    (soFar : compiler.Recompiled template start texts before)
    (edits : before.perform (.write template (.text text)) = (.ok (), edited))
    (ran : (compiler.compileFile template).runIn edited = (.ok output, after)) :
    compiler.Recompiled template start (texts ++ [text]) after ∧
      compiler.compileText template text = .ok output := by
  obtain ⟨text', -, -, held, compiled, -⟩ := compileFile_eq_ok.mp ran
  cases (read_of_edits edits).symm.trans held
  refine ⟨soFar.next edits ?_, compiled⟩
  rw [ran, compiled]
  rfl

/-- The last text and its compile. -/
theorem last (history : compiler.Recompiled template start (texts ++ [text]) after) :
    ∃ before edited, compiler.Recompiled template start texts before ∧
      before.perform (.write template (.text text)) = (.ok (), edited) ∧
      (compiler.compileFile template).runIn edited
        = ((compiler.compileText template text).mapError fun error =>
            .within (.compile template) (.compile error), after) := by
  generalize whole : texts ++ [text] = all at history
  cases history with
  | start => simp at whole
  | next soFar edits ran =>
    obtain ⟨rfl, same⟩ := List.append_inj' whole rfl
    cases same
    exact ⟨_, _, soFar, edits, ran⟩

private theorem stagingId_eq (history : compiler.Recompiled template start texts after) :
    after.stagingId = start.stagingId := by
  induction history with
  | start => rfl
  | @next texts text before edited after soFar edits ran ih =>
    have same := World.stagingId_perform before (.write template (.text text))
    rw [edits] at same
    rw [Job.stagingId_of_run ran, same, ih]

/-- Since a form was stored flatly there is a directory of forms. -/
private theorem walk_of_mem (history : compiler.Recompiled template start texts after)
    {past : String} (member : past ∈ texts) {output : Compiled}
    (compiled : compiler.compileText template past = .ok output) {form : Form}
    (isForm : form ∈ output.forms) (noSlash : '/' ∉ form.id.toList) :
    ∃ spot, after.files.walk (Cache.formsDirectory compiler.config.cacheDir) = .ok spot := by
  -- Induction on the history: an edit and a compile take no directory away.
  induction history with
  | start => cases member
  | @next texts text before edited after soFar edits ran ih =>
    rcases List.mem_append.mp member with earlier | last
    · obtain ⟨spot, walked⟩ := ih earlier
      exact ⟨spot, Job.walk_of_run ran (World.walk_of_perform edits walked)⟩
    · obtain rfl := List.mem_singleton.mp last
      rw [compiled] at ran
      exact walk_of_stored isForm noSlash ran

/-- Two texts that were seen to compile one after the other. -/
private theorem of_pair (compiler : Compiler) (template first second : String) (start : World)
    (ids ids' : List String) (p : World → Prop)
    (evaluated :
      let compile (world : World) := (compiler.compileFile template).runIn world
      let opened := start.perform (.write template (.text first))
      let between := compile opened.2
      let edited := between.2.perform (.write template (.text second))
      let last := compile edited.2
      (opened.1 = .ok () ∧ edited.1 = .ok ()) ∧
        between.1.toOption.any (fun output => output.forms.map Form.id = ids) = true ∧
        last.1.toOption.any (fun output => output.forms.map Form.id = ids') = true ∧ p last.2) :
    ∃ after earlier output, compiler.Recompiled template start ([first] ++ [second]) after ∧
      compiler.compileText template first = .ok earlier ∧ earlier.forms.map Form.id = ids ∧
      compiler.compileText template second = .ok output ∧ output.forms.map Form.id = ids' ∧
      p after := by
  obtain ⟨⟨writes, writes'⟩, compiles, compiles', holds⟩ := evaluated
  obtain ⟨earlier, ran, hasIds⟩ := exists_of_any compiles
  obtain ⟨output, ran', hasIds'⟩ := exists_of_any compiles'
  obtain ⟨history, compiled⟩ := next_of_ok .start (Prod.ext writes rfl) (Prod.ext ran rfl)
  obtain ⟨history, compiled'⟩ := next_of_ok history (Prod.ext writes' rfl) (Prod.ext ran' rfl)
  exact ⟨_, earlier, output, history, compiled, hasIds, compiled', hasIds', holds⟩

end Recompiled

/-- Whatever texts a template is given and compiled from: when the last one compiles, no form is
left that an earlier one had and the last one has not, and when it does not compile, neither the
view nor a form is left. Forms are stored flatly if there is no slash in their ids. -/
theorem recompiled_drops {template text : String} {start : World} {texts : List String}
    (staging : '/' ∉ start.stagingId.toList)
    (history : compiler.Recompiled template start (texts ++ [text]) after) :
    match compiler.compileText template text with
    | .ok output => (∀ form ∈ output.forms, '/' ∉ form.id.toList) →
        ∀ past ∈ texts, ∀ earlier, compiler.compileText template past = .ok earlier →
          ∀ form ∈ earlier.forms, '/' ∉ form.id.toList →
            (∀ other ∈ output.forms, other.id ≠ form.id) →
              ¬ after.files.HasFile (compiler.formPath template form.id)
    | .error _ => ¬ after.files.HasFile (compiler.viewPath template) ∧
        ∀ id, '/' ∉ id.toList → ¬ after.files.HasFile (compiler.formPath template id) := by
  obtain ⟨before, edited, soFar, edits, ran⟩ := history.last
  have staging : '/' ∉ edited.stagingId.toList := by
    have same := World.stagingId_perform before (.write template (.text text))
    rw [edits] at same
    rwa [same, soFar.stagingId_eq]
  cases compiled : compiler.compileText template text with
  | error error =>
    exact not_hasFile_of_compileFile_error staging (Recompiled.read_of_edits edits) compiled ran
  | ok output =>
    intro flat past member earlier compiled' form isForm noSlash dropped
    -- The directory stands since the text that had the form was compiled.
    obtain ⟨spot, walked⟩ := soFar.walk_of_mem member compiled' isForm noSlash
    have walked := World.walk_of_perform edits walked
    rw [compiled] at ran
    exact not_hasFile_of_compileFile staging noSlash flat dropped walked ran

/-- A template loses its only form. -/
theorem recompiled_drops_only :
    let compiler : Compiler := ⟨{}, .builtin⟩
    let first := "<form:form id=\"f\"></form:form>"
    ∃ after, compiler.Recompiled "t.tpl" (.holding []) ([first] ++ ["no forms"]) after ∧
      ¬ after.files.HasFile (compiler.formPath "t.tpl" "f") := by
  obtain ⟨after, earlier, output, history, compiled, ids, compiled', none, -⟩ :=
    Recompiled.of_pair ⟨{}, .builtin⟩ "t.tpl" "<form:form id=\"f\"></form:form>" "no forms"
      (.holding []) ["f"] [] (fun _ => True) (by decide +kernel)
  refine ⟨after, history, ?_⟩
  have staging : '/' ∉ (World.holding []).stagingId.toList := by decide +kernel
  have drops := recompiled_drops staging history
  rw [compiled'] at drops
  have noForms : output.forms = [] := List.map_eq_nil_iff.mp none
  obtain ⟨form, member, named⟩ := List.mem_map.mp (ids ▸ List.mem_singleton_self "f")
  have gone := drops (by simp [noForms]) _ (List.mem_singleton_self _) earlier compiled form member
    (by rw [named]; decide) (by simp [noForms])
  rwa [named] at gone

/-- A form with a slash in its id is stored in a directory of its own, where it is left behind. -/
theorem recompiled_leaves_nested :
    let compiler : Compiler := ⟨{}, .builtin⟩
    let first := "<form:form id=\"a/b\"></form:form>"
    ∃ after earlier output,
      compiler.Recompiled "t.tpl" (.holding []) ([first] ++ ["no forms"]) after ∧
      compiler.compileText "t.tpl" first = .ok earlier ∧ earlier.forms.map Form.id = ["a/b"] ∧
      compiler.compileText "t.tpl" "no forms" = .ok output ∧ output.forms.map Form.id = [] ∧
      after.files.HasFile (compiler.formPath "t.tpl" "a/b") := by
  obtain ⟨after, earlier, output, history, compiled, ids, compiled', none, left⟩ :=
    Recompiled.of_pair ⟨{}, .builtin⟩ "t.tpl" "<form:form id=\"a/b\"></form:form>" "no forms"
      (.holding []) ["a/b"] [] (fun last =>
        (last.files.find "cache/forms/t.tpl_a/b.json").toOption.any
          (fun entry => entry.kind = .file) = true) (by decide +kernel)
  refine ⟨after, earlier, output, history, compiled, ids, compiled', none, ?_⟩
  obtain ⟨entry, found, isFile⟩ := exists_of_any left
  cases entry with
  | directory time => cases isFile
  | file content time => exact ⟨content, time, found⟩

end Compiler

end Stencil
