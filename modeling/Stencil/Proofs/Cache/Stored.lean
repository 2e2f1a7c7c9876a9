import Stencil.Proofs.Cache.Frame
import Stencil.Proofs.Files.Access

/-!
# What a compile stores

Behind a compile that succeeds the view is stored, and of each form the definition that comes
last. What was stored of one form survives the storing of all others and of the view.

The tree of files stands for the working directory: absolute paths lie outside of it, and no
name is refused for its characters (`FileTree.target`).
-/
namespace Stencil

namespace Compiler

variable {compiler : Compiler} {world after : World} {path : String} {output : Compiled}

/-- A compile that succeeds clears the forms the template no longer has, stores those it has, and
then its view. -/
theorem compileFile_eq_ok : (compiler.compileFile path).runIn world = (.ok output, after) ↔
    ∃ text cleared stored, world.files.read path = .ok (.text text) ∧
      compiler.compileText path text = .ok output ∧
      (compiler.removeForms path (output.forms.map Form.id)).runIn world = (.ok (), cleared) ∧
      (output.forms.forM (compiler.storeForm path)).runIn cleared = (.ok (), stored) ∧
      (Job.writeAtomic (compiler.viewPath path) (.text output.view.toJson)).runIn stored
        = (.ok (), after) := by
  constructor
  · intro ran
    obtain ⟨text, opened, held, rest⟩ := Job.runIn_bind_eq_ok.mp ran
    obtain ⟨held, rfl⟩ := (Job.readText_eq_ok world).mp held
    -- A text that cannot be compiled lets the whole job fail.
    cases compiled : compiler.compileText path text with
    | error error =>
      rw [compiled] at rest
      obtain ⟨_, _, -, rest⟩ := Job.runIn_bind_eq_ok.mp rest
      obtain ⟨_, _, -, rest⟩ := Job.runIn_bind_eq_ok.mp rest
      cases rest
    | ok found =>
      rw [compiled] at rest
      obtain ⟨_, cleared, clear, rest⟩ := Job.runIn_bind_eq_ok.mp rest
      obtain ⟨_, stored, store, rest⟩ := Job.runIn_bind_eq_ok.mp rest
      obtain ⟨_, last, finish, rest⟩ := Job.runIn_bind_eq_ok.mp rest
      cases rest
      exact ⟨text, cleared, stored, held, compiled, clear, store, finish⟩
  · rintro ⟨text, cleared, stored, held, compiled, clear, store, finish⟩
    rw [compileFile, Job.runIn_bind_of_ok ((Job.readText_eq_ok world).mpr ⟨held, rfl⟩), compiled]
    dsimp only
    rw [Job.runIn_bind_of_ok clear, Job.runIn_bind_of_ok store, Job.runIn_bind_of_ok finish]
    rfl

section

variable {law : Law} {id : String} (about : law.About (compiler.formPath path id))
  (noSlash : '/' ∉ id.toList)
include about noSlash

/-- What is written elsewhere breaks no law about a stored form. -/
theorem admits_elsewhere {stop : Action → Prop} {stored : String} {content : Content}
    (apart : ∀ place, FileTree.placeOf? stored = some place →
      FileTree.placeOf? (compiler.formPath path id) ≠ some place) :
    law.Admits stop stored content where
  makes := fun directory _ => about.makes.at directory
  frees := by
    intro name staging named noSlash'
    refine about.frees _ fun place leads => ?_
    exact Cache.placeOf?_staging_ne (Path.noSlash_of_fileName? named) noSlash'
      (Cache.isName_formName path noSlash) leads
  takes := fun _ _ => (about.frees _ apart).takes content

/-- Storing forms with other ids breaks no law about a form. -/
theorem keeps_storeForms_others {forms : List Form} (flat : ∀ form ∈ forms, '/' ∉ form.id.toList)
    (others : ∀ form ∈ forms, form.id ≠ id) : (forms.forM (compiler.storeForm path)).Keeps law := by
  refine (Job.steady_forM fun form member => ?_).keeps
  refine Job.steady_writeAtomic (admits_elsewhere about noSlash fun place leads lies => ?_)
  exact others form member (Cache.id_eq_of_placeOf? (flat form member) noSlash leads lies)

/-- Storing the view breaks no law about a form. -/
theorem keeps_storeView (content : Content) :
    (Job.writeAtomic (compiler.viewPath path) content).Keeps law :=
  (Job.steady_writeAtomic (admits_elsewhere about noSlash fun _ =>
    Cache.placeOf?_viewPath_ne_formPath noSlash)).keeps

end

/-- A form that was stored is still there when others with other ids and the view are stored. -/
theorem read_form_of_stored {front rest : List Form} {form : Form} {text : String}
    {cleared stored : World} (staging : '/' ∉ cleared.stagingId.toList)
    (flat : ∀ other ∈ front ++ form :: rest, '/' ∉ other.id.toList)
    (last : ∀ other ∈ rest, other.id ≠ form.id)
    (store : ((front ++ form :: rest).forM (compiler.storeForm path)).runIn cleared
      = (.ok (), stored))
    (finish : (Job.writeAtomic (compiler.viewPath path) (.text text)).runIn stored
      = (.ok (), after)) :
    after.files.read (compiler.formPath path form.id) = .ok (.text form.toJson) := by
  obtain ⟨before, behind, start, here, later⟩ := Job.runIn_forM_around.mp store
  obtain ⟨time, found⟩ := Job.find_of_writeAtomic here
  have noSlash := flat form (by simp)
  have obeys : behind.Obeys (behind.files.stays (compiler.formPath path form.id)) := by
    refine ⟨?_, fun place => FileTree.stays_refl place⟩
    rwa [Job.stagingId_of_run here, Job.stagingId_of_run start]
  have obeys := keeps_storeForms_others FileTree.about_stays noSlash
    (fun other member => flat other (by simp [member])) last behind obeys
  rw [later] at obeys
  have obeys := keeps_storeView FileTree.about_stays noSlash (.text text) stored obeys
  rw [finish] at obeys
  exact FileTree.read_of_find (FileTree.find_of_obeys_stays obeys found)

/-- Behind a compile that succeeds the view of the template is stored, and under each id the last
form that has it. So forms with different ids all keep their definitions. Forms are stored flatly
if there is no slash in their ids. -/
theorem compileFile_stores (staging : '/' ∉ world.stagingId.toList)
    (flat : ∀ form ∈ output.forms, '/' ∉ form.id.toList)
    (ran : (compiler.compileFile path).runIn world = (.ok output, after)) :
    after.files.read (compiler.viewPath path) = .ok (.text output.view.toJson) ∧
      (∀ front form rest, output.forms = front ++ form :: rest →
        (∀ other ∈ rest, other.id ≠ form.id) →
          after.files.read (compiler.formPath path form.id) = .ok (.text form.toJson)) ∧
      ((output.forms.map Form.id).Nodup → ∀ form ∈ output.forms,
        after.files.read (compiler.formPath path form.id) = .ok (.text form.toJson)) := by
  obtain ⟨text, cleared, stored, -, -, clear, store, finish⟩ := compileFile_eq_ok.mp ran
  have staging' : '/' ∉ cleared.stagingId.toList := by rwa [Job.stagingId_of_run clear]
  -- Of the forms with one id the last one is stored behind the others.
  have lastStays (front rest : List Form) (form : Form)
      (whole : output.forms = front ++ form :: rest) (last : ∀ other ∈ rest, other.id ≠ form.id) :
      after.files.read (compiler.formPath path form.id) = .ok (.text form.toJson) := by
    rw [whole] at flat store
    exact read_form_of_stored staging' flat last store finish
  refine ⟨?_, fun front form rest => lastStays front rest form, fun distinct form member => ?_⟩
  · obtain ⟨time, found⟩ := Job.find_of_writeAtomic finish
    exact FileTree.read_of_find found
  · -- With distinct ids every form is the last one with its id.
    obtain ⟨front, rest, whole⟩ := List.append_of_mem member
    refine lastStays front rest form whole fun other isLater same => ?_
    rw [whole, List.map_append, List.map_cons] at distinct
    have apart := (List.nodup_cons.mp (List.nodup_append.mp distinct).2.1).1
    exact apart (same ▸ List.mem_map_of_mem isLater)

/-- Two forms are stored side by side. -/
theorem compileFile_stores_pair :
    let compiler : Compiler := ⟨{}, .builtin⟩
    let text := "<form:form id=\"f\"><form:text id=\"a\"/></form:form>" ++
      "<form:form id=\"g\"></form:form>"
    let world := World.holding [("t.tpl", text), ("cache/forms/t.tpl_f.json", "old")]
    ∃ output after, (compiler.compileFile "t.tpl").runIn world = (.ok output, after) ∧
      output.forms.map Form.id = ["f", "g"] ∧
      after.files.read (compiler.viewPath "t.tpl") = .ok (.text output.view.toJson) ∧
      ∀ form ∈ output.forms,
        after.files.read (compiler.formPath "t.tpl" form.id) = .ok (.text form.toJson) := by
  intro compiler text world
  have evaluated : (((compiler.compileFile "t.tpl").runIn world).1.toOption.any fun output =>
      output.forms.map Form.id = ["f", "g"]) = true := by decide +kernel
  have staging : '/' ∉ world.stagingId.toList := by decide +kernel
  rcases ran : (compiler.compileFile "t.tpl").runIn world with ⟨result, after⟩
  rw [ran] at evaluated
  obtain ⟨output, rfl, ids⟩ := exists_of_any evaluated
  have flat : ∀ form ∈ output.forms, '/' ∉ form.id.toList := by
    intro form member
    have isId : form.id ∈ ["f", "g"] := ids ▸ List.mem_map_of_mem member
    rcases List.mem_pair.mp isId with same | same <;> simp [same]
  have distinct : (output.forms.map Form.id).Nodup := by
    rw [ids]
    decide
  obtain ⟨view, -, all⟩ := compileFile_stores staging flat ran
  exact ⟨output, after, rfl, ids, view, all distinct⟩

/-- Of two forms with one id only the second one is stored. -/
theorem compileFile_overwrites :
    let compiler : Compiler := ⟨{}, .builtin⟩
    let text := "<form:form id=\"f\"><form:text id=\"a\"/></form:form>" ++
      "<form:form id=\"f\"></form:form>"
    let world := World.holding [("t.tpl", text)]
    ∃ output after, (compiler.compileFile "t.tpl").runIn world = (.ok output, after) ∧
      output.forms.map Form.id = ["f", "f"] ∧ ∃ form ∈ output.forms,
        after.files.read (compiler.formPath "t.tpl" form.id) ≠ .ok (.text form.toJson) := by
  intro compiler text world
  have evaluated : (((compiler.compileFile "t.tpl").runIn world).1.toOption.any fun output =>
      output.forms.map Form.id = ["f", "f"] ∧ (output.forms.any fun form =>
        ((Job.readText (compiler.formPath "t.tpl" form.id)).runIn
          ((compiler.compileFile "t.tpl").runIn world).2).1.toOption.any fun s =>
            s ≠ form.toJson) = true) = true := by decide +kernel
  rcases ran : (compiler.compileFile "t.tpl").runIn world with ⟨result, after⟩
  rw [ran] at evaluated
  obtain ⟨output, rfl, ids, differs⟩ := exists_of_any evaluated
  obtain ⟨form, member, differs⟩ := List.any_eq_true.mp differs
  obtain ⟨s, read, different⟩ := exists_of_any differs
  refine ⟨output, after, rfl, ids, form, member, fun same => ?_⟩
  rw [(Job.readText_eq_ok after).mpr ⟨same, rfl⟩] at read
  cases read
  exact different rfl

end Compiler

end Stencil
