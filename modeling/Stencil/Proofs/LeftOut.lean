import Stencil.Proofs.Outline.Skipping

/-!
# What is left out has no influence

Of a conditional that does not hold only the tags around it count. Whatever well-nested
tags and text are put into it, the template compiles or fails to, and if it compiles, it
is the same.
-/
namespace Stencil

open Markup (Occurrence Part)

/-- A text with a conditional in it. Before the opening tag are the parts `before`,
inside are the parts `inner`, and behind the closing tag is the text `post`. -/
structure Encloses (setting : Setting) (text : String) (before : List Part) (opening : Part)
    (inner : List Part) (post : List Char) : Prop where
  conditional : ∃ comparison,
    setting.registry.tag? opening.tag.namespaceName opening.tag.name = some (.staticIf comparison)
  opens : opening.tag.opens
  nested : (inner.map (·.tag)).foldlM (matchTag setting.registry) [] = .ok []
  scanned : ∃ closing : Part, closing.tag.closing = true ∧ closing.tag.selfClosing = false ∧
    closing.tag.namespaceName = opening.tag.namespaceName ∧ closing.tag.name = opening.tag.name ∧
    let behind := Markup.scanFrom setting.registry.namespaces closing.tag.stop [] post
    Markup.scan setting.registry.namespaces text.toList
      = ⟨before ++ opening :: inner ++ closing :: behind.parts, behind.tail⟩

/-- A conditional that is opened here does not hold, if its attributes and its
comparison can be read. -/
def Session.Fails (setting : Setting) (session : Session) (tag : Occurrence) : Prop :=
  ∀ attributes condition, session.attributes setting tag = .ok attributes →
    Comparison.ofHead ⟨tag.namespaceName, tag.name, attributes, setting.location tag⟩
      = .ok condition →
    condition.holds session.statics = false

section

variable {setting : Setting} {text : String} {before inner : List Part} {opening : Part}
  {post : List Char}

/-- What is compiled up to the closing tag of a conditional that fails. -/
theorem Encloses.run (encloses : Encloses setting text before opening inner post)
    {outline base : Outline}
    (fails : outline.active → outline.Fails setting opening.tag)
    (opened : outline.visit setting opening = .ok base) {closing : Part}
    (closes : closing.tag.closing = true) (plain : closing.tag.selfClosing = false)
    (names : closing.tag.namespaceName = opening.tag.namespaceName ∧
      closing.tag.name = opening.tag.name) :
    ∃ pushes pops, (inner ++ [closing]).foldlM (Outline.visit setting) base
      = .ok { outline.pushText opening.gap with pushes, pops } := by
  obtain ⟨⟨comparison, known⟩, opens, nested, -⟩ := encloses
  obtain ⟨notClosing, notSelfClosing⟩ : opening.tag.closing = false ∧
      opening.tag.selfClosing = false := by
    simpa [Occurrence.opens] using opens
  obtain ⟨kind, registered, ⟨contrary, -⟩ | ⟨-, done⟩⟩ := Outline.visit_eq_ok opened
  · rw [notClosing] at contrary
    cases contrary
  · -- It is opened as one that fails, looked at or not.
    rw [known] at registered
    cases registered
    have fails' : (outline.pushText opening.gap).active →
        (outline.pushText opening.gap).Fails setting opening.tag := fails
    obtain ⟨frame, rfl, namespaceName, name⟩ := Outline.openTag_failing notSelfClosing fails' done
    rw [← names.1, ← names.2] at known
    rw [← names.1] at namespaceName
    rw [← names.2] at name
    exact Outline.run_left_out nested known closes plain ⟨namespaceName, name⟩

/-- The rest of a template goes on alike behind a conditional that fails. -/
theorem Encloses.compile_alike {text' : String} {inner' : List Part}
    (first : Encloses setting text before opening inner post)
    (second : Encloses setting text' before opening inner' post)
    (fails : ∀ outline,
      before.foldlM (Outline.visit setting) (Outline.start setting) = .ok outline →
      outline.active → outline.Fails setting opening.tag) :
    Related (fun _ _ => True)
      (fun c d => c.view = d.view ∧ c.forms = d.forms ∧ c.statics = d.statics)
      (Outline.compile setting text) (Outline.compile setting text') := by
  obtain ⟨closing, closes, plain, namespaceName, name, scan⟩ := first.scanned
  obtain ⟨closing', closes', plain', namespaceName', name', scan'⟩ := second.scanned
  obtain ⟨parts, tail⟩ := Markup.scanFrom_alike setting.registry.namespaces
    closing.tag.stop closing'.tag.stop [] post
  dsimp only at scan scan'
  unfold Outline.compile
  rw [scan, scan', tail]
  dsimp only
  rw [foldlM_around, foldlM_around]
  simp only [bind_assoc]
  -- Up to the conditional both are the same, and behind it they differ in places only.
  refine Related.bind_same (fun _ => trivial) fun outline ran => ?_
  refine Related.bind_same (fun _ => trivial) fun base opened => ?_
  obtain ⟨pushes, pops, run⟩ :=
    first.run (fails outline ran) opened closes plain ⟨namespaceName, name⟩
  obtain ⟨pushes', pops', run'⟩ :=
    second.run (fails outline ran) opened closes' plain' ⟨namespaceName', name'⟩
  rw [run, run']
  have anywhere := (Outline.Alike.refl (outline.pushText opening.gap)).anywhere
  have start : Outline.Alike (fun _ _ => True)
      { outline.pushText opening.gap with pushes, pops }
      { outline.pushText opening.gap with pushes := pushes', pops := pops' } :=
    ⟨anywhere.top, anywhere.outer, rfl, rfl, rfl⟩
  have rest := Related.foldlM (R := Outline.Alike fun _ _ => True) (T := Part.Alike)
    (fun _ _ _ _ alike parts => alike.visit setting parts trivial) parts start
  refine rest.bind fun last last' alike => ?_
  exact (alike.pushText _).finish setting text text'

end

/-- What is inside of a conditional that does not hold has no influence. -/
theorem compileTemplate_left_out (setting : Setting) {text text' : String}
    {before inner inner' : List Part} {opening : Part} {post : List Char}
    (first : Encloses setting text before opening inner post)
    (second : Encloses setting text' before opening inner' post)
    (fails : ∀ session,
      before.foldlM (Session.visit setting) (Session.start setting) = .ok session →
      session.active → session.Fails setting opening.tag) :
    ((∃ compiled, compileTemplate setting text = .ok compiled) ↔
      ∃ compiled, compileTemplate setting text' = .ok compiled) ∧
    ∀ compiled compiled', compileTemplate setting text = .ok compiled →
      compileTemplate setting text' = .ok compiled' →
      compiled.view = compiled'.view ∧ compiled.forms = compiled'.forms ∧
        compiled.statics = compiled'.statics := by
  -- Every outline before the conditional is that of a session there.
  have alike := first.compile_alike second fun outline ran active => by
    have run := run_related setting (outlined_start setting) before
    obtain ⟨session, reached, arena, stack, rfl, -⟩ := run.exists_of_ok_right ran
    exact fails _ reached active
  rw [compileTemplate_eq_outline, compileTemplate_eq_outline]
  constructor
  · constructor
    · rintro ⟨compiled, compiles⟩
      obtain ⟨compiled', compiles', -⟩ := alike.exists_of_ok compiles
      exact ⟨compiled', compiles'⟩
    · rintro ⟨compiled', compiles'⟩
      obtain ⟨compiled, compiles, -⟩ := alike.exists_of_ok_right compiles'
      exact ⟨compiled, compiles⟩
  · intro compiled compiled' compiles compiles'
    obtain ⟨other, same, observed⟩ := alike.exists_of_ok compiles
    rw [compiles'] at same
    cases same
    exact observed

/-- A field outside of any form is an error, but not where it is left out. -/
theorem compileTemplate_left_out_field :
    let setting : Setting := ⟨.builtin, {}, "page"⟩
    let text := "<static:if isset=\"a\"></static:if>"
    let text' := "<static:if isset=\"a\"><form:text/></static:if>"
    ((∃ compiled, compileTemplate setting text = .ok compiled) ↔
      ∃ compiled, compileTemplate setting text' = .ok compiled) ∧
    ∀ compiled compiled', compileTemplate setting text = .ok compiled →
      compileTemplate setting text' = .ok compiled' →
      compiled.view = compiled'.view ∧ compiled.forms = compiled'.forms ∧
        compiled.statics = compiled'.statics := by
  intro setting text text'
  let opening : Part :=
    ⟨[], false, false, "static", "if", "isset=\"a\"".toList, ⟨0, 1, 1⟩, ⟨21, 1, 22⟩⟩
  let field : Part := ⟨[], false, true, "form", "text", [], ⟨21, 1, 22⟩, ⟨33, 1, 34⟩⟩
  let closing : Part := ⟨[], true, false, "static", "if", [], ⟨21, 1, 22⟩, ⟨33, 1, 34⟩⟩
  let closing' : Part := ⟨[], true, false, "static", "if", [], ⟨33, 1, 34⟩, ⟨45, 1, 46⟩⟩
  have first : Encloses setting text [] opening [] [] :=
    ⟨⟨none, by rfl⟩, rfl, rfl, closing, rfl, rfl, rfl, rfl, by decide +kernel⟩
  have second : Encloses setting text' [] opening [field] [] :=
    ⟨⟨none, by rfl⟩, rfl, by rfl, closing', rfl, rfl, rfl, rfl, by decide +kernel⟩
  refine compileTemplate_left_out setting first second ?_
  intro session reached _ attributes condition read compared
  cases reached
  -- There are no static attributes at the start of a template.
  have evaluated : (((Session.start setting).attributes setting opening.tag).toOption.bind
      fun attributes => (Comparison.ofHead ⟨opening.tag.namespaceName, opening.tag.name, attributes,
        setting.location opening.tag⟩).toOption).map (·.holds .empty) = some false := by
    decide +kernel
  rw [read] at evaluated
  change (Comparison.ofHead _).toOption.map _ = _ at evaluated
  rw [compared] at evaluated
  exact Option.some.inj evaluated

end Stencil
