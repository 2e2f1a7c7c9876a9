import Stencil.Proofs.Cache.Checks
import Stencil.Proofs.Cache.Frame
import Stencil.Proofs.Files.Descent

/-!
# Compiles that are interrupted

A compile can be stopped after any number of its actions. As long as it has not renamed the view
to its place, the view is missing or older than the template, so the next check compiles again;
and no stored file is found half written, because contents only ever lie where staging files go
before they are renamed.

The tree of files stands for the working directory: absolute paths lie outside of it, and no
name is refused for its characters (`FileTree.target`).
-/
namespace Stencil

/-- An action that puts a finished file at a path. -/
def Action.Completes (path : String) : Action → Prop
  | .rename _ target => target = path
  | _ => False

instance (path : String) : DecidablePred (Action.Completes path)
  | .rename _ target => inferInstanceAs (Decidable (target = path))
  | .read _ | .modified _ | .list _ | .isDirectory _ | .makeDirectory _ | .write _ _ | .remove _
  | .stagingId | .environment _ | .print _ | .printError _ | .warn _ => isFalse id

/-! ### Under way -/

namespace Compiler

/-- In the course of a compile contents lie where staging files go, and those of forms where the
forms are stored. -/
def Written (compiler : Compiler) (source : String) (forms : List Form) (place : String)
    (content : Content) : Prop :=
  ∃ directory name, Path.IsName directory ∧ Path.IsName name ∧
    FileTree.placeOf? (Path.join (Path.join compiler.config.cacheDir directory) name) = some place ∧
    ((∃ stored id, '/' ∉ stored.toList ∧ '/' ∉ id.toList ∧ name = Job.stagingName stored id) ∨
      ∃ form ∈ forms, directory = "forms" ∧ name = Cache.formName source form.id ∧
        content = .text form.toJson)

/-- What lies where before a compile puts the view in its place: the template and all directories
stay, the view may be removed, and files are either old or were written. -/
structure Underway (tree : FileTree) (compiler : Compiler) (source : String) (forms : List Form)
    (place : String) (entry : Option FileEntry) : Prop where
  stays : tree.stays source place entry
  view : FileTree.placeOf? (compiler.viewPath source) = some place →
    entry = none ∨ entry = tree.entries.get? place
  file : ∀ content time, entry = some (.file content time) →
    tree.entries.get? place = some (.file content time) ∨
      compiler.Written source forms place content

section

variable {compiler : Compiler} {tree : FileTree} {source : String} {forms : List Form}

private theorem underway_refl (place : String) :
    Underway tree compiler source forms place (tree.entries.get? place) where
  stays := FileTree.stays_refl place
  view := fun _ => .inr rfl
  file := fun _ _ there => .inl there

/-- Files with longer names than the template may come and go, if they are among what is written
and no view. -/
theorem Underway.replace {base name place : String} {before after : Option FileEntry}
    (underway : Underway tree compiler source forms place before) (isName : Path.IsName name)
    (longer : (Cache.flatName source).length < name.length)
    (leads : FileTree.placeOf? (Path.join base name) = some place) (noDirectory : NoDirectory before)
    (noDirectory' : NoDirectory after)
    (view : FileTree.placeOf? (compiler.viewPath source) = some place → after = none)
    (written : ∀ content time, after = some (.file content time) →
      compiler.Written source forms place content) :
    Underway tree compiler source forms place after where
  stays := by
    refine FileTree.frees_stays (fun other leads lies => ?_) place before after leads noDirectory
      noDirectory' underway.stays
    exact Cache.placeOf?_ne_longer isName longer lies leads
  view := fun lies => .inl (view lies)
  file := fun content time there => .inr (written content time there)

private theorem flatName_lt_viewName (source : String) :
    (Cache.flatName source).length < (Cache.viewName source).length := by
  rw [Cache.viewName, String.length_append]
  exact Nat.lt_add_of_pos_right (by decide)

private theorem flatName_lt_formName (source id : String) :
    (Cache.flatName source).length < (Cache.formName source id).length := by
  have ending : 0 < ".json".length := by decide
  simp only [Cache.formName, Cache.formPrefix, String.length_append]
  omega

private theorem removesView_underway :
    Law.Removes (Underway tree compiler source forms) (compiler.viewPath source) := by
  intro place entry leads isFile underway
  rw [viewPath_eq] at leads
  refine underway.replace (Cache.isName_viewName source) (flatName_lt_viewName source) leads
    (noDirectory_of_kind isFile) noDirectory_none (fun _ => rfl) ?_
  rintro content time ⟨⟩

private theorem removesForm_underway {id : String} (noSlash : '/' ∉ id.toList) :
    Law.Removes (Underway tree compiler source forms) (compiler.formPath source id) := by
  intro place entry leads isFile underway
  rw [formPath_eq] at leads
  refine underway.replace (Cache.isName_formName source noSlash) (flatName_lt_formName source id)
    leads (noDirectory_of_kind isFile) noDirectory_none (fun _ => rfl) ?_
  rintro content time ⟨⟩

/-- No directory is made where the view goes: it would lie on the way down to the files. -/
private theorem makesAt_underway (climbs : tree.Climbs compiler.config.cacheDir)
    {store directory : String} (isStore : Path.IsName store)
    (sameStart : Path.isAbsolute directory
      = Path.isAbsolute (Path.join compiler.config.cacheDir store))
    (within : (Path.steps directory).1
      <+: (Path.steps (Path.join compiler.config.cacheDir store)).1) :
    Law.MakesAt (Underway tree compiler source forms) directory := by
  intro place time leads underway
  refine ⟨FileTree.makes_stays place time underway.stays, fun lies => ?_, fun _ _ same => nomatch same⟩
  have isView := Cache.isName_viewName source
  rw [viewPath_eq] at lies
  obtain ⟨cache, spot, -⟩ := (Cache.placeOf?_stored Cache.isName_templates isView).mp lies
  have led : FileTree.spotOf? (Path.join compiler.config.cacheDir store)
      = some (.inside (cache ++ [store])) := by
    rw [FileTree.spotOf?_join isStore, spot]
    simp [FileTree.Spot.into?, isStore.notDot, isStore.notDots]
  rcases (climbs.join isStore).on_way sameStart within leads led with
    ⟨made, there⟩ | ⟨inner, last, within, rfl⟩
  · cases underway.stays _ there (.inl rfl)
  · exact absurd rfl (Cache.placeOf?_ne_on_way Cache.isName_templates isView isStore lies led within)

/-- A file is written at once in one of the directories of the cache. -/
private theorem admits_underway (climbs : tree.Climbs compiler.config.cacheDir)
    {stop : Action → Prop} {store name : String} {content : Content} (isStore : Path.IsName store)
    (isName : Path.IsName name) (longer : (Cache.flatName source).length < name.length)
    (takes : ∀ staging,
      ¬ stop (.rename staging (Path.join (Path.join compiler.config.cacheDir store) name)) →
        Law.Takes (Underway tree compiler source forms)
          (Path.join (Path.join compiler.config.cacheDir store) name) content) :
    Law.Admits (Underway tree compiler source forms) stop
      (Path.join (Path.join compiler.config.cacheDir store) name) content where
  makes := by
    rw [Path.parent?_join isStore isName, Option.getD_some]
    intro directory member
    obtain ⟨sameStart, within⟩ := Path.mem_outward member
    exact makesAt_underway climbs isStore sameStart within
  frees := by
    intro stored id named noSlash
    rw [Path.parent?_join isStore isName, Option.getD_some]
    rw [Path.fileName?_join isStore isName] at named
    cases named
    intro place before after leads noDirectory noDirectory' underway
    -- A staged file is none of the artifacts, as its name is no artifact's.
    have isStaging := Cache.isName_stagingName isName.noSlash noSlash
    have longer' : (Cache.flatName source).length < (Job.stagingName name id).length := by
      simp only [Job.stagingName, String.length_append]
      omega
    refine underway.replace isStaging longer' leads noDirectory noDirectory' (fun lies => ?_) ?_
    · have isView := Cache.isName_viewName source
      rw [viewPath_eq] at lies
      exact absurd lies (Cache.placeOf?_staging_ne isName.noSlash noSlash isView leads)
    · exact fun content time _ =>
        ⟨store, _, isStore, isStaging, leads, .inl ⟨name, id, isName.noSlash, noSlash, rfl⟩⟩
  takes := takes

/-- Up to the renaming of the view a compile only does what leaves the view out of date. -/
private theorem abides_underway {world : World} (staging : '/' ∉ world.stagingId.toList)
    (climbs : world.files.Climbs compiler.config.cacheDir)
    (among : ∀ text output, world.files.read source = .ok (.text text) →
      compiler.compileText source text = .ok output →
        ∀ form ∈ output.forms, form ∈ forms ∧ '/' ∉ form.id.toList) :
    (compiler.compileFile source).run.Abides (Action.Completes (compiler.viewPath source))
      (Underway world.files compiler source forms) world := by
  refine abides_compileFile removesView_underway (fun id => removesForm_underway) ?_
    ⟨staging, fun place => underway_refl place⟩
  intro text output held compiled
  constructor
  · intro form member
    obtain ⟨isForm, noSlash⟩ := among text output held compiled form member
    have named := Cache.isName_formName source noSlash
    have longer := flatName_lt_formName source form.id
    rw [formPath_eq]
    refine admits_underway climbs Cache.isName_forms named longer fun staging _ => ?_
    intro place before time leads noDirectory underway
    -- A stored form is not the view, and it is written whole.
    refine underway.replace named longer leads noDirectory (noDirectory_file _ _) (fun lies => ?_) ?_
    · rw [← formPath_eq] at leads
      exact absurd leads (Cache.placeOf?_viewPath_ne_formPath noSlash lies)
    · rintro content time ⟨⟩
      exact ⟨_, _, Cache.isName_forms, named, leads, .inr ⟨form, isForm, rfl, rfl, rfl⟩⟩
  · rw [viewPath_eq]
    -- The view itself is the last that is written, and that is where the law stops.
    refine admits_underway climbs Cache.isName_templates (Cache.isName_viewName source)
      (flatName_lt_viewName source) fun staging watched => ?_
    exact absurd rfl watched

/-! ### What is found in between -/

/-- What was out of date is so as long as the view is not in its place. -/
theorem outdated_of_underway {world now : World} (sound : world.files.Sound)
    (climbs : world.files.Climbs compiler.config.cacheDir) {content : Content} {time : Time}
    (held : world.files.find source = .ok (.file content time))
    (underway : now.Obeys (Underway world.files compiler source forms))
    (outdated : Cache.Outdated world.files source (compiler.viewPath source)) :
    Cache.Outdated now.files source (compiler.viewPath source) := by
  have isView := Cache.isName_viewName source
  have stay (place : String) (made : Time)
      (there : world.files.entries.get? place = some (.directory made)) :
      now.files.entries.get? place = some (.directory made) :=
    (underway.entries place).stays _ there (.inl rfl)
  rcases outdated with absent | ⟨old, current, found, template, older⟩
  · left
    rw [viewPath_eq] at absent ⊢
    refine (climbs.join Cache.isName_templates).find_absent sound isView absent stay
      (fun place lies => (underway.entries place).view (viewPath_eq compiler source ▸ lies)) ?_
    intro whole inner last content time led within there
    refine ((underway.entries _).file content time there).resolve_right ?_
    rintro ⟨directory, name, isDirectory, isName, leads, -⟩
    exact Cache.placeOf?_ne_on_way isDirectory isName Cache.isName_templates leads led within rfl
  · -- The directory of the view is there, and the view is the old one or has gone.
    cases held.symm.trans template
    have template' : now.files.find source = .ok (.file content time) :=
      FileTree.find_of_obeys_stays ⟨underway.staging, fun place => (underway.entries place).stays⟩
        held
    rw [viewPath_eq, FileTree.find_join isView] at found
    obtain ⟨spot, walked, child⟩ := bind_eq_ok.mp found
    have walked' : now.files.walk (Path.join compiler.config.cacheDir "templates") = .ok spot :=
      FileTree.walk_of_stay stay walked
    have found' : now.files.find (compiler.viewPath source)
        = (now.files.child? (Cache.viewName source) spot).elim (.error .notFound) .ok := by
      rw [viewPath_eq, FileTree.find_join isView, walked']
      dsimp only [bind, Except.bind]
      cases now.files.child? (Cache.viewName source) spot <;> rfl
    split at child
    · next entry there =>
      cases child
      rw [FileTree.child?_eq] at there
      obtain ⟨place, placed, there⟩ := Option.bind_eq_some_iff.mp there
      have followed : FileTree.spotOf? (Path.join compiler.config.cacheDir "templates") = some spot :=
        FileTree.follow?_of_walk walked
      have lies : FileTree.placeOf? (compiler.viewPath source) = some place := by
        rw [viewPath_eq, FileTree.placeOf?_join isView, followed]
        exact placed
      rw [FileTree.child?_eq, placed, Option.bind_some] at found'
      rcases (underway.entries place).view lies with gone | same
      · rw [gone] at found'
        exact .inl found'
      · rw [same, there] at found'
        exact .inr ⟨old, _, found', template', older⟩
    · cases child

/-- Where the cache stores something of a template. -/
def IsArtifact (compiler : Compiler) (path : String) : Prop :=
  ∃ template, path = compiler.viewPath template ∨ ∃ id, path = compiler.formPath template id

/-- The last part of a path of an artifact ends as all of them do. -/
theorem IsArtifact.ends {path : String} (isArtifact : compiler.IsArtifact path) :
    ∃ stem, (Path.steps path).1.getLast? = some (stem ++ ".json") := by
  obtain ⟨template, same | ⟨id, same⟩⟩ := isArtifact <;> rw [same]
  · rw [viewPath_eq]
    refine Cache.getLast?_steps_of_ending ?_ (by decide) (by decide)
    exact Path.not_isAbsolute_of_noSlash (Cache.isName_viewName template).noSlash
  · rw [formPath_eq]
    refine Cache.getLast?_steps_of_ending ?_ (by decide) (by decide)
    have noSlash := Cache.noSlash_flatName template
    unfold Path.isAbsolute
    cases flat : (Cache.flatName template).toList with
    | nil => simp [Cache.formPrefix, flat]
    | cons c rest =>
      rw [flat] at noSlash
      have other : c ≠ '/' := fun same => noSlash (same ▸ List.mem_cons_self)
      simp [Cache.formPrefix, flat, other]

/-- Of each artifact there is the old file or a form that is written whole. -/
theorem whole_of_underway {now : World} {path : String} {content : Content} {time : Time}
    (isArtifact : compiler.IsArtifact path)
    (underway : now.Obeys (Underway tree compiler source forms))
    (found : now.files.find path = .ok (.file content time)) :
    (∃ place, FileTree.placeOf? path = some place ∧
        tree.entries.get? place = some (.file content time)) ∨
      ∃ form ∈ forms, FileTree.placeOf? path = FileTree.placeOf? (compiler.formPath source form.id) ∧
        content = .text form.toJson := by
  obtain ⟨place, leads, there⟩ := FileTree.placeOf?_of_find found
  rcases (underway.entries place).file content time there with
    old | ⟨directory, name, isDirectory, isName, stored, written⟩
  · exact .inl ⟨place, leads, old⟩
  · right
    rcases written with ⟨stem, id, noSlash, noSlash', rfl⟩ | ⟨form, member, rfl, rfl, rfl⟩
    · -- Staging files end in another way.
      obtain ⟨other, ends⟩ := isArtifact.ends
      have same := FileTree.getLast?_of_placeOf? leads stored
      rw [ends, Path.steps_join_name _ isName, List.getLast?_concat] at same
      exact absurd (Option.some.inj same).symm (Cache.stagingName_ne stem id other)
    · exact ⟨form, member, leads.trans stored.symm, rfl⟩

end

/-- A compile of a template that cannot be read does nothing, wherever it is stopped. -/
theorem interrupt_unreadable {compiler : Compiler} {source : String} {world : World}
    (unreadable : ∀ text, world.files.read source ≠ .ok (.text text)) (n : Nat) :
    (compiler.compileFile source).run.interrupt world n = world := by
  have reads : ∃ next, (compiler.compileFile source).run = .step (.read source) next ∧
      ∀ answer, (∀ text, answer ≠ .ok (.text text)) → ∃ result, next answer = .done result := by
    refine ⟨_, rfl, fun answer other => ?_⟩
    cases answer with
    | error fault => exact ⟨_, rfl⟩
    | ok content =>
      cases content with
      | text text => exact absurd rfl (other text)
      | binary bytes => exact ⟨_, rfl⟩
  obtain ⟨next, whole, ends⟩ := reads
  obtain ⟨result, done⟩ := ends _ unreadable
  rw [whole]
  cases n with
  | zero => rfl
  | succ n =>
    change (next (world.files.read source)).interrupt world n = world
    rw [done]
    cases n <;> rfl

/-- A compile is stopped anywhere before it renames the view to its place. If the view was out of
date, it still is; and of each view and form that is stored there is what was there before, or a
form of the template as it is now. This is so in each tree in which everything lies in a
directory, for a cache directory in which each `..` stands behind directories that are there. -/
theorem compileFile_interrupted {compiler : Compiler} {source : String} {world : World} (n : Nat)
    (staging : '/' ∉ world.stagingId.toList) (sound : world.files.Sound)
    (climbs : world.files.Climbs compiler.config.cacheDir)
    (flat : ∀ text output, world.files.read source = .ok (.text text) →
      compiler.compileText source text = .ok output → ∀ form ∈ output.forms, '/' ∉ form.id.toList)
    (needed : (Cache.needsCompile .check source (compiler.viewPath source)).runIn world
      = (.ok true, world))
    (unfinished : ∀ action ∈ (compiler.compileFile source).run.performed world n,
      ¬ action.Completes (compiler.viewPath source)) :
    let now := (compiler.compileFile source).run.interrupt world n
    (Cache.needsCompile .check source (compiler.viewPath source)).runIn now = (.ok true, now) ∧
      ∀ path, compiler.IsArtifact path → ∀ content time,
        now.files.find path = .ok (.file content time) →
          (∃ place, FileTree.placeOf? path = some place ∧
            world.files.entries.get? place = some (.file content time)) ∨
          ∃ text output, world.files.read source = .ok (.text text) ∧
            compiler.compileText source text = .ok output ∧ ∃ form ∈ output.forms,
              FileTree.placeOf? path = FileTree.placeOf? (compiler.formPath source form.id) ∧
                content = .text form.toJson := by
  intro now
  by_cases readable : ∃ text, world.files.read source = .ok (.text text)
  · obtain ⟨text, read⟩ := readable
    obtain ⟨time, held⟩ := FileTree.find_of_read read
    -- Only forms of the template's own text can have been stored.
    obtain ⟨forms, fromText, toForms⟩ : ∃ forms : List Form,
        (∀ output, compiler.compileText source text = .ok output →
          ∀ form ∈ output.forms, form ∈ forms) ∧
        ∀ form ∈ forms, ∃ output, compiler.compileText source text = .ok output ∧
          form ∈ output.forms := by
      cases compiler.compileText source text with
      | error error => exact ⟨[], by simp, by simp⟩
      | ok output => exact ⟨output.forms, by simp, by simp⟩
    have among (text' : String) (output : Compiled) (read' : world.files.read source = .ok (.text text'))
        (compiled : compiler.compileText source text' = .ok output) (form : Form)
        (member : form ∈ output.forms) : form ∈ forms ∧ '/' ∉ form.id.toList := by
      cases read.symm.trans read'
      exact ⟨fromText output compiled form member, flat text output read compiled form member⟩
    have underway := (abides_underway staging climbs among).interrupt unfinished
    constructor
    · rw [Cache.needsCompile_eq_true] at needed ⊢
      exact outdated_of_underway sound climbs held underway needed
    · intro path isArtifact content time found
      refine (whole_of_underway isArtifact underway found).imp_right ?_
      rintro ⟨form, member, same, whole⟩
      obtain ⟨output, compiled, isForm⟩ := toForms form member
      exact ⟨text, output, read, compiled, form, isForm, same, whole⟩
  · -- A template that cannot be read stops the job before it changes anything.
    have same : now = world := interrupt_unreadable (fun text read => readable ⟨text, read⟩) n
    rw [same]
    refine ⟨needed, fun path isArtifact content time found => .inl ?_⟩
    exact FileTree.placeOf?_of_find found

/-- A compile is stopped when the form is stored and the view is about to be. -/
theorem compileFile_interrupted_late :
    let compiler : Compiler := ⟨{}, .builtin⟩
    let world := World.holding [("t.tpl", "<form:form id=\"f\"></form:form>"),
      ("cache/forms/t.tpl_f.json", "old")]
    let now := (compiler.compileFile "t.tpl").run.interrupt world 12
    (Cache.needsCompile .check "t.tpl" (compiler.viewPath "t.tpl")).runIn now = (.ok true, now) ∧
      ∀ content time, now.files.find (compiler.formPath "t.tpl" "f") = .ok (.file content time) →
        (∃ place, FileTree.placeOf? (compiler.formPath "t.tpl" "f") = some place ∧
          world.files.entries.get? place = some (.file content time)) ∨
        ∃ output : Compiled, ∃ form ∈ output.forms, content = .text form.toJson := by
  intro compiler world now
  have staging : '/' ∉ world.stagingId.toList := by decide +kernel
  have sound : world.files.Sound := by
    unfold FileTree.Sound
    decide +kernel
  have climbs : world.files.Climbs "cache" := by
    intro front back split
    have up : ".." ∈ (Path.steps "cache").1 := split ▸ List.mem_append_right front List.mem_cons_self
    exact absurd up (by decide +kernel)
  have read : world.files.read "t.tpl" = .ok (.text "<form:form id=\"f\"></form:form>") := by rfl
  have flat (text : String) (output : Compiled) (held : world.files.read "t.tpl" = .ok (.text text))
      (compiles : compiler.compileText "t.tpl" text = .ok output) (form : Form)
      (member : form ∈ output.forms) : '/' ∉ form.id.toList := by
    cases held.symm.trans read
    have evaluated : (compiler.compileText "t.tpl" "<form:form id=\"f\"></form:form>").toOption.all
        (fun output => output.forms.all fun form => '/' ∉ form.id.toList) = true := by
      decide +kernel
    rw [compiles] at evaluated
    exact of_decide_eq_true (List.all_eq_true.mp evaluated form member)
  have absent : world.files.find (compiler.viewPath "t.tpl") = .error .notFound := by
    have walked : world.files.walk (Path.join "cache" "templates") = .error .notFound := by rfl
    rw [viewPath_eq, FileTree.find_join (Cache.isName_viewName _), walked]
    rfl
  have needed : (Cache.needsCompile .check "t.tpl" (compiler.viewPath "t.tpl")).runIn world
      = (.ok true, world) := Cache.needsCompile_eq_true.mpr (.inl absent)
  obtain ⟨still, whole⟩ := compileFile_interrupted 12 staging sound climbs flat needed
    (by decide +kernel)
  refine ⟨still, fun content time found => ?_⟩
  refine (whole _ ⟨"t.tpl", .inr ⟨"f", rfl⟩⟩ content time found).imp_right ?_
  rintro ⟨_, output, -, -, form, member, -, written⟩
  exact ⟨output, form, member, written⟩

/-- A cache directory with a `..` behind a directory that is only made in the course of the
compile: a newer view comes to light behind it, or a file that is in the way. -/
theorem compileFile_interrupted_hidden :
    let check (compiler : Compiler) (world : World) :=
      ((Cache.needsCompile .check "t.tpl" (compiler.viewPath "t.tpl")).runIn world).1
    let misses (compiler : Compiler) (world : World) (n : Nat) : Prop :=
      check compiler world = .ok true ∧
        (∀ action ∈ (compiler.compileFile "t.tpl").run.performed world n,
          ¬ action.Completes (compiler.viewPath "t.tpl")) ∧
        check compiler ((compiler.compileFile "t.tpl").run.interrupt world n) ≠ .ok true
    misses ⟨{ cacheDir := "a/../cache" }, .builtin⟩ (.holding
        [("t.tpl", "<form:form id=\"f\"></form:form>"), ("cache/templates/t.tpl.json", "newer")]) 6 ∧
      misses ⟨{ cacheDir := "a/../b/../cache" }, .builtin⟩ (.holding
        [("t.tpl", "one"), ("b", "file")]) 8 := by
  decide +kernel

end Compiler

end Stencil
