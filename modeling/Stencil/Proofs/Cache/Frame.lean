import Stencil.Proofs.Cache.Law

/-!
# What a compile leaves alone

Compiling a template keeps the directories and every file that neither is the view of the
template nor has the name of one of its forms.
-/
namespace Stencil

/-- The directories of a tree stay where they are, and so does what lies where some path leads. -/
def FileTree.stays (tree : FileTree) (kept : String) : Law := fun place entry =>
  ∀ old, tree.entries.get? place = some old →
    old.kind = .directory ∨ FileTree.placeOf? kept = some place → entry = some old

namespace FileTree

variable {tree : FileTree} {kept path : String}

theorem stays_refl (place : String) : tree.stays kept place (tree.entries.get? place) :=
  fun _ there _ => there

/-- Files may come and go where a path leads that is not the one to keep. -/
theorem frees_stays (apart : ∀ place, placeOf? path = some place → placeOf? kept ≠ some place) :
    (tree.stays kept).Frees path := by
  intro place before after leads noDirectory _ obeys old there important
  have stayed := obeys old there important
  rcases important with isDirectory | here
  · cases old with
    | file content time => cases isDirectory
    | directory time => exact absurd stayed (noDirectory time)
  · exact absurd here (apart place leads)

/-- Nothing is made where something has to stay. -/
theorem makes_stays : (tree.stays kept).Makes := by
  intro place time obeys old there important
  cases obeys old there important

theorem about_stays : (tree.stays kept).About kept := ⟨makes_stays, fun _ => frees_stays⟩

/-- The path that was kept leads to the same file. -/
theorem find_of_obeys_stays {world : World} {content : Content} {time : Time}
    (obeys : world.Obeys (tree.stays kept)) (found : tree.find kept = .ok (.file content time)) :
    world.files.find kept = .ok (.file content time) := by
  refine find_of_stay (fun place made there => ?_) found fun place leads there => ?_
  · exact obeys.entries place _ there (.inl rfl)
  · exact obeys.entries place _ there (.inr leads)

end FileTree

namespace Compiler

variable {compiler : Compiler} {world : World} {path other : String}

/-- A file that lies in another place than all that a compile removes or writes stays as it
is. -/
theorem find_compileFile {kept base name stem : String} (keptName : kept = Path.join base name)
    (isName : Path.IsName name) (ending : name = stem ++ ".json")
    (staging : '/' ∉ world.stagingId.toList)
    (ids : ∀ text output, world.files.read path = .ok (.text text) →
      compiler.compileText path text = .ok output → ∀ form ∈ output.forms, '/' ∉ form.id.toList)
    (view : ∀ place, FileTree.placeOf? (compiler.viewPath path) = some place →
      FileTree.placeOf? kept ≠ some place)
    (forms : ∀ id place, '/' ∉ id.toList →
      FileTree.placeOf? (compiler.formPath path id) = some place →
        FileTree.placeOf? kept ≠ some place)
    {content : Content} {time : Time} (found : world.files.find kept = .ok (.file content time)) :
    ((compiler.compileFile path).runIn world).2.files.find kept = .ok (.file content time) := by
  -- Nothing the compiler writes or removes lies where the kept file does.
  have suits : (world.files.stays kept).Suits compiler path := {
    makes := FileTree.makes_stays
    frees := fun base' name' id noSlash noSlash' => FileTree.frees_stays fun place leads lies => by
      rw [keptName] at lies
      have same := FileTree.name_eq_of_placeOf? (Cache.isName_stagingName noSlash noSlash') isName
        leads lies
      exact Cache.stagingName_ne name' id stem (same.trans ending)
    removesView := (FileTree.frees_stays view).removes
    removesForm := fun id noSlash =>
      (FileTree.frees_stays fun place => forms id place noSlash).removes }
  refine FileTree.find_of_obeys_stays (obeys_compileFile suits (fun text output held compiled => ?_)
    ⟨staging, fun place => FileTree.stays_refl place⟩) found
  exact {
    view := (FileTree.frees_stays view).takes _
    form := fun form member => (FileTree.frees_stays fun place =>
      forms form.id place (ids text output held compiled form member)).takes _ }

/-- Compiling a template, whether that succeeds or not, leaves the stored view of each template
with another flat name as it is, and those of its stored forms whose file is not named like a
form of the compiled template. Forms are stored flatly if there is no slash in their ids. -/
theorem compileFile_leaves (staging : '/' ∉ world.stagingId.toList)
    (apart : Cache.flatName other ≠ Cache.flatName path)
    (ids : ∀ text output, world.files.read path = .ok (.text text) →
      compiler.compileText path text = .ok output → ∀ form ∈ output.forms, '/' ∉ form.id.toList)
    {content : Content} {time : Time} :
    (world.files.find (compiler.viewPath other) = .ok (.file content time) →
      ((compiler.compileFile path).runIn world).2.files.find (compiler.viewPath other)
        = .ok (.file content time)) ∧
    ∀ id, '/' ∉ id.toList → Cache.formId? path (Cache.formName other id) = none →
      world.files.find (compiler.formPath other id) = .ok (.file content time) →
        ((compiler.compileFile path).runIn world).2.files.find (compiler.formPath other id)
          = .ok (.file content time) := by
  constructor
  · -- A view has a place of its own for each flattened name.
    refine find_compileFile (Cache.viewPath_eq _ other) (Cache.isName_viewName other) rfl staging
      ids (fun place leads lies => ?_) fun id place noSlash leads lies => ?_
    · exact apart (Cache.flatName_eq_of_placeOf? lies leads)
    · exact Cache.placeOf?_viewPath_ne_formPath noSlash lies leads
  · intro id noSlash foreign
    refine find_compileFile (Cache.formPath_eq _ other id) (Cache.isName_formName other noSlash)
      rfl staging ids (fun place leads lies => ?_) fun own place ownNoSlash leads lies => ?_
    · exact Cache.placeOf?_viewPath_ne_formPath noSlash leads lies
    · -- The two would have the same name, and it would begin as one of this template's.
      rw [formPath, Cache.formPath_eq] at leads
      rw [Cache.formPath_eq] at lies
      have same := FileTree.name_eq_of_placeOf? (Cache.isName_formName path ownNoSlash)
        (Cache.isName_formName other noSlash) leads lies
      rw [Cache.formId?_eq_some.mpr same.symm] at foreign
      cases foreign

/-- A template with a shorter name is compiled; what is stored of the other one stays. -/
theorem compileFile_leaves_longer :
    let compiler : Compiler := ⟨{}, .builtin⟩
    let world := World.holding [("a", "<form:form id=\"g\"></form:form>"),
      ("cache/templates/ab.json", "view"), ("cache/forms/ab_f.json", "form")]
    let after := ((compiler.compileFile "a").runIn world).2
    ∃ view form, world.files.find (compiler.viewPath "ab") = .ok view ∧
      world.files.find (compiler.formPath "ab" "f") = .ok form ∧
      after.files.find (compiler.viewPath "ab") = .ok view ∧
      after.files.find (compiler.formPath "ab" "f") = .ok form := by
  intro compiler world after
  have isFile {path : String}
      (evaluated : (world.files.find path).toOption.any (fun entry => entry.kind = .file) = true) :
      ∃ content time, world.files.find path = .ok (.file content time) := by
    obtain ⟨entry, found, kind⟩ := exists_of_any evaluated
    cases entry with
    | file content time => exact ⟨content, time, found⟩
    | directory time => cases kind
  -- The template has one form, whose id has no slash.
  have ids (text : String) (output : Compiled) (held : world.files.read "a" = .ok (.text text))
      (compiles : compiler.compileText "a" text = .ok output) (form : Form)
      (member : form ∈ output.forms) : '/' ∉ form.id.toList := by
    have read : world.files.read "a" = .ok (.text "<form:form id=\"g\"></form:form>") := by rfl
    cases held.symm.trans read
    have evaluated : (compiler.compileText "a" "<form:form id=\"g\"></form:form>").toOption.all
        (fun output => output.forms.all fun form => '/' ∉ form.id.toList) = true := by
      decide +kernel
    rw [compiles] at evaluated
    exact of_decide_eq_true (List.all_eq_true.mp evaluated form member)
  have viewFile : ∃ content time, world.files.find (compiler.viewPath "ab")
    = .ok (.file content time) := isFile (by decide +kernel)
  have formFile : ∃ content time, world.files.find (compiler.formPath "ab" "f")
    = .ok (.file content time) := isFile (by decide +kernel)
  obtain ⟨_, _, view⟩ := viewFile
  obtain ⟨_, _, form⟩ := formFile
  -- The names differ although one begins with the other.
  have apart : Cache.flatName "ab" ≠ Cache.flatName "a" := by decide +kernel
  have staging : '/' ∉ world.stagingId.toList := by decide +kernel
  have foreign : Cache.formId? "a" (Cache.formName "ab" "f") = none := by decide +kernel
  have viewStays := (compileFile_leaves staging apart ids).1 view
  have formStays := (compileFile_leaves staging apart ids).2 "f" (by decide) foreign form
  exact ⟨_, _, view, form, viewStays, formStays⟩

/-- The file of a form whose template has a name that begins like a form of another template is
taken for a form of that one, and is removed with those it no longer has. -/
theorem compileFile_removes_alike :
    let compiler : Compiler := ⟨{}, .builtin⟩
    let world := ((compiler.compileFile "a_b").runIn (.holding
      [("a", "one"), ("a_b", "<form:form id=\"f\"></form:form>")])).2
    let after := ((compiler.compileFile "a").runIn world).2
    Cache.flatName "a_b" ≠ Cache.flatName "a" ∧
      (world.files.find (compiler.formPath "a_b" "f")).toOption.isSome = true ∧
      (after.files.find (compiler.formPath "a_b" "f")).toOption.isSome = false := by
  decide +kernel

end Compiler

end Stencil
