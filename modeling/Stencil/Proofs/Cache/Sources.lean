import Stencil.Proofs.Cache.Events
import Stencil.Proofs.Cache.Law
import Stencil.Proofs.View.Codec
import Stencil.Form.Codec

/-!
# Whose view is loaded

Where the view of a template is stored there is never anything but views of templates with the
same flat name. So as long as no two templates share a flat name, each gets its own view.

The tree of files stands for the working directory: absolute paths lie outside of it, and no
name is refused for its characters (`FileTree.target`).
-/
namespace Stencil

open Json

/-! ### Texts of views and forms -/

/-- The text of a view is read as a view with the same source, if it is read at all. -/
theorem View.source_of_ofJson? {view other : View} (found : ofJson? view.toJson = some other) :
    other.source = view.source := by
  obtain ⟨value, read, decoded⟩ := Option.bind_eq_some_iff.mp found
  have reread := reread?_of_read_text read
  obtain ⟨members, inner, rfl⟩ := Option.map_eq_some_iff.mp reread
  rw [Value.rereadMembers?_cons] at inner
  obtain ⟨first, source, behind⟩ := Option.bind_eq_some_iff.mp inner
  obtain ⟨rest, ofRest, rfl⟩ := Option.map_eq_some_iff.mp behind
  rw [Value.rereadMembers?_cons] at ofRest
  obtain ⟨second, -, last⟩ := Option.bind_eq_some_iff.mp ofRest
  obtain ⟨_, none, rfl⟩ := Option.map_eq_some_iff.mp last
  cases none
  cases source
  have fields := fields?_object false [("source", .string view.source), ("body", second)] (by simp)
  simp only [List.map_cons, List.map_nil] at fields
  rw [decode?, fields] at decoded
  obtain ⟨source, same, decoded⟩ := Option.bind_eq_some_iff.mp decoded
  obtain ⟨body, -, whole⟩ := Option.bind_eq_some_iff.mp decoded
  cases same
  cases whole
  rfl

private theorem Value.keys_of_rereadMembers? {members read : List (String × Value)}
    (reread : rereadMembers? members = some read) : read.map Prod.fst = members.map Prod.fst := by
  induction members generalizing read with
  | nil =>
    cases reread
    rfl
  | cons member rest ih =>
    obtain ⟨key, value⟩ := member
    rw [rereadMembers?_cons] at reread
    obtain ⟨first, -, reread⟩ := Option.bind_eq_some_iff.mp reread
    obtain ⟨others, later, rfl⟩ := Option.map_eq_some_iff.mp reread
    rw [List.map_cons, List.map_cons, ih later]

/-- The text of a form is no view. -/
theorem Form.view_ofJson?_toJson (form : Form) : View.ofJson? form.toJson = none := by
  rw [View.ofJson?, Form.toJson]
  cases read : Json.read (Json.text form.encode) with
  | none => rfl
  | some value =>
    have reread := reread?_of_read_text read
    obtain ⟨members, inner, rfl⟩ := Option.map_eq_some_iff.mp reread
    have keys := Value.keys_of_rereadMembers? inner
    -- The members of a form have names of their own, and none of them is a source.
    have absent : member? members "source" = some none := by
      have noSource : members.filter (fun entry => entry.1 = "source") = [] := by
        refine List.filter_eq_nil_iff.mpr fun entry isIn => ?_
        have key : entry.1 ∈ members.map Prod.fst := List.mem_map_of_mem isIn
        rw [keys] at key
        simp only [List.map_cons, List.map_nil, List.mem_cons, List.not_mem_nil, or_false] at key
        rcases key with same | same | same | same | same | same <;> simp [same]
      rw [member?, noSource]
    rw [Option.bind_some, View.decode?, fields?, List.mapM_cons, absent]
    cases ([("body")] : List String).mapM (member? members) with
    | none => rfl
    | some rest =>
      cases rest with
      | nil => rfl
      | cons body more => cases more <;> rfl

/-! ### The law -/

private theorem source_of_compileTemplate {setting : Setting} {text : String} {compiled : Compiled}
    (compiles : compileTemplate setting text = .ok compiled) :
    compiled.view.source = setting.source := by
  obtain ⟨session, -, finished⟩ := bind_eq_ok.mp compiles
  generalize session.pushText _ = last at finished
  rw [Session.finish] at finished
  cases stack : last.stack with
  | cons id outer =>
    rw [stack] at finished
    cases finished
  | nil =>
    rw [stack] at finished
    dsimp only at finished
    split at finished
    · cases finished
    · obtain ⟨body, -, done⟩ := bind_eq_ok.mp finished
      cases done
      rfl

namespace Compiler

variable {compiler : Compiler} {templates : List String}

/-- Where the view of one of some templates is stored, every view is that of a template with
the same flat name. -/
def ownViews (compiler : Compiler) (templates : List String) : Law := fun place entry =>
  ∀ template ∈ templates, FileTree.placeOf? (compiler.viewPath template) = some place →
    ∀ text time view, entry = some (.file (.text text) time) → View.ofJson? text = some view →
      view.source ∈ templates ∧ Cache.flatName view.source = Cache.flatName template

private theorem ownViews_none (place : String) : compiler.ownViews templates place none :=
  fun _ _ _ _ _ _ same => nomatch same

private theorem ownViews_directory (place : String) (time : Time) :
    compiler.ownViews templates place (some (.directory time)) :=
  fun _ _ _ _ _ _ same => nomatch same

/-- The law holds as long as no view is stored. -/
theorem obeys_ownViews {world : World} (staging : '/' ∉ world.stagingId.toList)
    (absent : ∀ template ∈ templates, ∀ place ∈ FileTree.placeOf? (compiler.viewPath template),
      (world.files.entries.get? place).isNone) : world.Obeys (compiler.ownViews templates) := by
  refine ⟨staging, fun place template member stored text time view there _ => ?_⟩
  have none := absent template member place stored
  rw [there] at none
  cases none

/-- Elsewhere there may be anything. -/
theorem frees_ownViews {path : String} (apart : ∀ template ∈ templates, ∀ place,
    FileTree.placeOf? path = some place →
      FileTree.placeOf? (compiler.viewPath template) ≠ some place) :
    (compiler.ownViews templates).Frees path := by
  intro place before after leads _ _ _ template member stored
  exact absurd stored (apart template member place leads)

/-- A text is written that is no view, or the view of a template. -/
theorem takes_ownViews {path text : String}
    (own : ∀ view, View.ofJson? text = some view → view.source ∈ templates ∧
      ∀ template ∈ templates, ∀ place, FileTree.placeOf? path = some place →
        FileTree.placeOf? (compiler.viewPath template) = some place →
          Cache.flatName view.source = Cache.flatName template) :
    (compiler.ownViews templates).Takes path (.text text) := by
  intro place before time leads _ _ template member stored text' time' view same read
  cases same
  obtain ⟨isIn, names⟩ := own view read
  exact ⟨isIn, names template member place leads stored⟩

private theorem suits_ownViews (source : String) :
    (compiler.ownViews templates).Suits compiler source where
  makes := fun place time _ => ownViews_directory place time
  frees := by
    intro base name id noSlash noSlash'
    refine frees_ownViews fun template _ place leads stored => ?_
    have same := FileTree.name_eq_of_placeOf? (Cache.isName_stagingName noSlash noSlash')
      (Cache.isName_viewName template) leads stored
    exact Cache.stagingName_ne name id _ same
  removesView := fun place _ _ _ _ => ownViews_none place
  removesForm := fun _ _ place _ _ _ _ => ownViews_none place

private theorem takesOutput_ownViews {source text : String} {output : Compiled}
    (isIn : source ∈ templates) (compiled : compiler.compileText source text = .ok output) :
    (compiler.ownViews templates).TakesOutput compiler source output where
  view := by
    refine takes_ownViews fun view read => ?_
    have named : view.source = source := by
      rw [View.source_of_ofJson? read]
      exact source_of_compileTemplate compiled
    rw [named]
    exact ⟨isIn, fun template _ place leads stored => Cache.flatName_eq_of_placeOf? leads stored⟩
  form := fun form _ => takes_ownViews fun view read => by
    rw [Form.view_ofJson?_toJson] at read
    cases read

/-- A view that was loaded is what lies where the view of its template is stored. -/
theorem stored_of_loadView {world after : World} {template : String} {view : View}
    (loaded : (compiler.loadView template).runIn world = (.ok view, after)) :
    ∃ text, after.files.read (compiler.viewPath template) = .ok (.text text) ∧
      View.ofJson? text = some view := by
  obtain ⟨-, compiled, -, loaded⟩ := Job.runIn_bind_eq_ok.mp loaded
  obtain ⟨text, last, read, decoded⟩ := Job.runIn_bind_eq_ok.mp loaded
  obtain ⟨held, rfl⟩ := (Job.readText_eq_ok compiled).mp read
  split at decoded
  · next found same =>
    cases decoded
    exact ⟨text, held, same⟩
  · cases decoded

/-- What the law says of a view that is loaded. -/
theorem own_of_loadView {world after : World} {template : String} {view : View}
    (isIn : template ∈ templates) (obeys : after.Obeys (compiler.ownViews templates))
    (loaded : (compiler.loadView template).runIn world = (.ok view, after)) :
    view.source ∈ templates ∧ Cache.flatName view.source = Cache.flatName template := by
  obtain ⟨text, held, read⟩ := stored_of_loadView loaded
  obtain ⟨time, found⟩ := FileTree.find_of_read held
  obtain ⟨place, leads, there⟩ := FileTree.placeOf?_of_find found
  exact obeys.entries place template isIn leads text time view there read

/-- In every run of edits of some templates and loads of their views, whatever the mode of the
cache, a view that is loaded is that of a template with the same flat name. So templates whose
flat names differ never get each other's views. The templates do not lie where their views
are stored. -/
theorem source_of_answers {world : World} {events : List Event}
    (start : world.Obeys (compiler.ownViews templates))
    (among : ∀ event ∈ events, event.template ∈ templates)
    (apart : ∀ template ∈ templates, ∀ other ∈ templates, ∀ place,
      FileTree.placeOf? template = some place →
        FileTree.placeOf? (compiler.viewPath other) ≠ some place)
    {answer : Answer} (member : answer ∈ compiler.answers world events) {view : View}
    (loaded : answer.result = .ok view) :
    view.source ∈ templates ∧ Cache.flatName view.source = Cache.flatName answer.template ∧
      ((∀ template ∈ templates, ∀ other ∈ templates,
        Cache.flatName template = Cache.flatName other → template = other) →
          view.source = answer.template) := by
  have loads {template : String} (isIn : template ∈ templates) :
      (compiler.loadView template).Keeps (compiler.ownViews templates) :=
    keeps_loadView (suits_ownViews template) fun _ _ => takesOutput_ownViews isIn
  -- An edit writes no stored view, and a load only that of its own template.
  have keeps (event : Event) (isEvent : event ∈ events) (world : World)
      (obeys : world.Obeys (compiler.ownViews templates)) :
      (compiler.after world event).Obeys (compiler.ownViews templates) := by
    have isIn := among event isEvent
    cases event with
    | edit template text =>
      exact obeys.write ((frees_ownViews fun other isOther place =>
        apart template isIn other isOther place).takes _)
    | load template => exact loads isIn world obeys
  obtain ⟨isEvent, obeys, same⟩ := answers_of_invariant keeps start member
  have isIn := among _ isEvent
  obtain ⟨own, names⟩ := own_of_loadView isIn (loads isIn answer.before obeys)
    (Prod.ext (same.symm.trans loaded) rfl)
  exact ⟨own, names, fun distinct => distinct _ own _ isIn names⟩

/-- Two templates are loaded, and the first one again after an edit. -/
theorem source_of_answers_pair :
    let compiler : Compiler := ⟨{}, .builtin⟩
    let world := World.holding [("a/b.tpl", "one"), ("c.tpl", "two")]
    let events : List Event := [.load "a/b.tpl", .load "c.tpl",
      .edit "a/b.tpl" "<form:form id=\"f\"></form:form>", .load "a/b.tpl"]
    ∃ answer ∈ compiler.answers world events, ∃ view, answer.template = "c.tpl" ∧
      answer.result = .ok view ∧ view.source = "c.tpl" := by
  intro compiler world events
  have evaluated : ∃ answer ∈ compiler.answers world events,
      answer.template = "c.tpl" ∧ answer.result.toOption.any (fun _ => true) = true := by
    decide +kernel
  obtain ⟨answer, member, named, succeeds⟩ := evaluated
  obtain ⟨view, loaded, -⟩ := exists_of_any (p := fun _ => True) (by simpa using succeeds)
  have start : world.Obeys (compiler.ownViews ["a/b.tpl", "c.tpl"]) :=
    obeys_ownViews (by decide +kernel) (by decide +kernel)
  have apart : ∀ template ∈ ["a/b.tpl", "c.tpl"], ∀ other ∈ ["a/b.tpl", "c.tpl"],
      ∀ place ∈ FileTree.placeOf? template,
        FileTree.placeOf? (compiler.viewPath other) ≠ some place := by decide +kernel
  have own := source_of_answers start (by decide) (fun template isIn other isOther place leads =>
    apart template isIn other isOther place leads) member loaded
  refine ⟨answer, member, view, named, loaded, ?_⟩
  rw [← named]
  exact own.2.2 (by decide +kernel)

/-- Two templates with the same flat name get the same view. -/
theorem source_of_answers_shared :
    let compiler : Compiler := ⟨{}, .builtin⟩
    let world := World.holding [("a/b.tpl", "one"), ("a_b.tpl", "two")]
    (compiler.answers world [.load "a/b.tpl", .load "a_b.tpl"]).map
        (fun answer => (answer.template, answer.result.toOption.map View.source))
      = [("a/b.tpl", some "a/b.tpl"), ("a_b.tpl", some "a/b.tpl")] := by
  decide +kernel

end Compiler

end Stencil
