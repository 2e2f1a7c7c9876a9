import Stencil.Proofs.Controls
import Stencil.Proofs.Dynamics
import Stencil.Proofs.Placement.Written

/-!
# Passwords are not shown

A view depends on a submitted parameter only where it shows the value of a field of that
name or evaluates an expression that reads the parameters. Password fields are not among
what is shown, so a parameter that only passwords are submitted under has no influence
on the output.
-/
namespace Stencil

/-- An expression reads the variable of this name, or something in it. -/
def Expr.Mentions (expr : Expr) (name : String) : Prop := ∃ path ∈ expr.paths, path.head? = some name

/-- Requests that differ at most in one submitted parameter. -/
structure Request.AgreesBut (name : String) (a b : Request) : Prop where
  method : a.method = b.method
  params : ∀ key, key ≠ name → a.params.get? key = b.params.get? key
  attribs : a.attribs = b.attribs
  files : a.files = b.files

/-! ### Expressions -/

namespace Expr

variable {scope scope' : Scope}

/-- The value of an expression is determined by those of the variables it reads. -/
theorem eval_congr {expr : Expr} (agree : ∀ path ∈ expr.paths, scope path = scope' path) :
    expr.eval scope = expr.eval scope' := by
  induction expr with
  | literal value => rfl
  | var path => rw [eval, eval, agree path (List.mem_singleton_self path)]
  | not operand ih => rw [eval, eval, ih agree]
  | neg operand ih => rw [eval, eval, ih agree]
  | binary op left right ihLeft ihRight =>
    have agreeLeft : ∀ path ∈ left.paths, scope path = scope' path := by
      intro path member
      exact agree path (List.mem_append_left _ member)
    have agreeRight : ∀ path ∈ right.paths, scope path = scope' path := by
      intro path member
      exact agree path (List.mem_append_right _ member)
    rw [eval, eval, ihLeft agreeLeft, ihRight agreeRight]

end Expr

namespace View

variable {name : String} {a b : Request}

/-- What is not below the parameters is looked up alike. -/
theorem scope_agrees (agrees : a.AgreesBut name b) (errors : Dict String) (locals : Dict Value)
    {path : List String} (elsewhere : path.head? ≠ some "params") :
    scope ⟨a, errors⟩ locals path = scope ⟨b, errors⟩ locals path := by
  cases path with
  | nil => rfl
  | cons first rest =>
    have notParams : first ≠ "params" := by
      intro same
      exact elsewhere (congrArg some same)
    simp only [scope, if_neg notParams, agrees.method, agrees.attribs]

private theorem eval_agrees (agrees : a.AgreesBut name b) (errors : Dict String)
    (locals : Dict Value) {expr : Expr} (unread : ¬expr.Mentions "params") :
    expr.eval (scope ⟨a, errors⟩ locals) = expr.eval (scope ⟨b, errors⟩ locals) := by
  apply Expr.eval_congr
  intro path member
  apply scope_agrees agrees
  intro below
  exact unread ⟨path, member, below⟩

/-- The values of other fields are the same. -/
theorem fieldValue_agrees (agrees : a.AgreesBut name b) {other : String} (differs : other ≠ name)
    (fallback : Option String) : fieldValue a other fallback = fieldValue b other fallback := by
  rw [fieldValue, fieldValue, agrees.params other differs, agrees.method]

private theorem isChecked_agrees (agrees : a.AgreesBut name b) {other : String}
    (differs : other ≠ name) (on : String) (fallback : Option String) :
    isChecked a other on fallback = isChecked b other on fallback := by
  rw [isChecked, isChecked, agrees.params other differs, agrees.method]

private theorem selectedValues_agrees (agrees : a.AgreesBut name b) {other : String}
    (differs : other ≠ name) (fallback : Option String) (multiple : Bool) :
    selectedValues a other fallback multiple = selectedValues b other fallback multiple := by
  rw [selectedValues, selectedValues, agrees.params other differs,
    fieldValue_agrees agrees differs]

end View

/-! ### Views -/

/-- A segment neither shows the value of the field nor reads the parameters. -/
structure Segment.Ignores (name : String) (segment : Segment) : Prop where
  field : segment.field? ≠ some name
  expr : ∀ expr, segment.expr? = some expr → ¬expr.Mentions "params"

theorem Segment.Ignores.differs {name other : String} {segment : Segment}
    (ignores : segment.Ignores name) (shows : segment.field? = some other) : other ≠ name := by
  intro same
  exact ignores.field (shows.trans (congrArg some same))

namespace View

variable {name : String} {a b : Request}

mutual

private theorem renderSegment_agrees (agrees : a.AgreesBut name b) (errors : Dict String)
    (locals : Dict Value) (segment : Segment)
    (ignores : ∀ inner ∈ segment.dynamics, inner.Ignores name) :
    renderSegment ⟨a, errors⟩ locals segment = renderSegment ⟨b, errors⟩ locals segment := by
  cases segment with
  | text s => rfl
  | eachError template => rfl
  | echo expr =>
    have unread := (ignores _ (List.mem_singleton_self _)).expr expr rfl
    rw [renderSegment, renderSegment, eval_agrees agrees errors locals unread]
  | assign variable_ expr =>
    have unread := (ignores _ (List.mem_singleton_self _)).expr expr rfl
    rw [renderSegment, renderSegment, eval_agrees agrees errors locals unread]
  | fieldValue other fallback =>
    have differs := (ignores _ (List.mem_singleton_self _)).differs rfl
    rw [renderSegment, renderSegment, fieldValue_agrees agrees differs]
  | checked other on fallback =>
    have differs := (ignores _ (List.mem_singleton_self _)).differs rfl
    rw [renderSegment, renderSegment, isChecked_agrees agrees differs]
  | radioChecked other value fallback =>
    have differs := (ignores _ (List.mem_singleton_self _)).differs rfl
    rw [renderSegment, renderSegment, fieldValue_agrees agrees differs]
  | options other source fallback multiple =>
    have differs := (ignores _ (List.mem_singleton_self _)).differs rfl
    -- The options themselves come from the request attributes.
    have resolved : source.resolve a = source.resolve b := by
      cases source with
      | fixed options => rfl
      | bound attrib titleKey valueKey =>
        rw [OptionSource.resolve, OptionSource.resolve, agrees.attribs]
    rw [renderSegment, renderSegment, selectedValues_agrees agrees differs, resolved]
  | ifErrors body =>
    have inside := renderFrom_agrees agrees errors locals body ignores
    rw [renderSegment, renderSegment, inside]

private theorem renderFrom_agrees (agrees : a.AgreesBut name b) (errors : Dict String)
    (locals : Dict Value) (body : List Segment)
    (ignores : ∀ inner ∈ Segment.dynamicsIn body, inner.Ignores name) :
    renderFrom ⟨a, errors⟩ locals body = renderFrom ⟨b, errors⟩ locals body := by
  cases body with
  | nil => rfl
  | cons segment rest =>
    have here := renderSegment_agrees agrees errors locals segment fun inner member =>
      ignores inner (List.mem_append_left _ member)
    -- Behind both segments the same values have been assigned.
    have later := renderFrom_agrees agrees errors
      (renderSegment ⟨b, errors⟩ locals segment).2 rest fun inner member =>
        ignores inner (List.mem_append_right _ member)
    rw [renderFrom, renderFrom, here]
    dsimp only
    rw [later]

end

/-- A view whose segments ignore a parameter gives the same whatever is submitted
for it. -/
theorem render_agrees {view : View} (ignores : ∀ segment ∈ Segment.dynamicsIn view.body,
    segment.Ignores name) (agrees : a.AgreesBut name b) (errors : Dict String) :
    view.render a errors = view.render b errors := by
  rw [render, render, renderFrom_agrees agrees errors .empty view.body ignores]

end View

/-- A password field leaves nothing that shows its value. -/
theorem Entry.Leaves.not_password {messages : Messages} {entry : Entry} {control : Segment}
    (leaves : entry.Leaves messages control) : entry.tag.kind ≠ .text .password := by
  obtain ⟨-, -, -, left⟩ := leaves
  intro password
  rw [Node.controlsIn_render, password] at left
  cases left

/-- Passwords are never echoed. If all fields of a name are passwords, and no expression
of the view reads the parameters, the output is the same whatever is submitted under
that name. -/
theorem compileTemplate_hides_passwords {setting : Setting} {text : String} {compiled : Compiled}
    (compiles : compileTemplate setting text = .ok compiled) :
    ∃ walk, Walk.run setting (setting.tags text) = some walk ∧ ∀ name,
      (∀ mark ∈ walk.marks, mark.tag.kind.validates → mark.name? = some name →
        mark.tag.kind = .text .password) →
      (∀ segment ∈ Segment.dynamicsIn compiled.view.body, ∀ expr, segment.expr? = some expr →
        ¬expr.Mentions "params") →
      ∀ a b : Request, a.AgreesBut name b → ∀ errors,
        compiled.view.render a errors = compiled.view.render b errors := by
  obtain ⟨site, grown, -⟩ := compileTemplate_grows compiles
  obtain ⟨walk, ran, met⟩ := grown.walked
  refine ⟨walk, ran, ?_⟩
  intro name passwords unread a b agrees errors
  refine View.render_agrees ?_ agrees errors
  intro segment shown
  refine ⟨?_, unread segment shown⟩
  intro field
  -- What shows the field was left by a tag of this name, and that is a password field.
  have control : segment ∈ Segment.controlsIn compiled.view.body := by
    rw [Segment.controlsIn_eq_filter, List.mem_filter]
    exact ⟨shown, by rw [field]; rfl⟩
  obtain ⟨entry, found, leaves⟩ := (grown.mem_controls segment).mp control
  have notPassword := leaves.not_password
  obtain ⟨-, validates, own, -⟩ := leaves
  obtain ⟨mark, isMet, becomes⟩ := met entry found
  have isName : mark.name? = some name := by
    rw [becomes.name?_eq validates, ← own, field]
  have same := TagKind.eq_of_bare becomes.kind validates
  have password := passwords mark isMet (same ▸ validates) isName
  exact notPassword (same.trans password)

/-- What is submitted for a password is not seen in a page, though another field of the
form shows what was submitted for it. -/
theorem compileTemplate_hides_passwords_page :
    let setting : Setting := ⟨.builtin, {}, "page"⟩
    let text := "<form:form id=\"f\"><form:password id=\"p\"/><form:text id=\"t\"/></form:form>"
    let request (password : String) : Request :=
      { method := .post, params := .ofList [("p", .string password), ("t", .string "x")] }
    ∃ compiled, compileTemplate setting text = .ok compiled ∧
      (Segment.controlsIn compiled.view.body).map Segment.field? = [some "t"] ∧
      ∀ password other errors, compiled.view.render (request password) errors
        = compiled.view.render (request other) errors := by
  intro setting text request
  have evaluated : ((compileTemplate setting text).toOption.any fun compiled : Compiled =>
      (Segment.controlsIn compiled.view.body).map Segment.field? = [some "t"] ∧
      (Segment.dynamicsIn compiled.view.body).all (·.expr?.isNone)) = true := by
    rw [compileTemplate, String.toList_ofList]
    decide +kernel
  have met : ((Walk.run setting (setting.tags text)).any fun walk => walk.marks.all fun mark =>
      mark.name? != some "p" || mark.tag.kind.style? == some .password) = true := by
    rw [Setting.tags, String.toList_ofList]
    decide +kernel
  obtain ⟨compiled, compiles, shown, noExprs⟩ := exists_of_any evaluated
  obtain ⟨walk, ran, hides⟩ := compileTemplate_hides_passwords compiles
  rw [ran, Option.any_some, List.all_eq_true] at met
  refine ⟨compiled, compiles, shown, ?_⟩
  intro password other errors
  refine hides "p" ?_ ?_ (request password) (request other) ?_ errors
  · intro mark member _ own
    have kind := met mark member
    rw [own, bne_self_eq_false, Bool.false_or, beq_iff_eq] at kind
    exact TagKind.style?_eq_some.mp kind
  · intro segment dynamic expr here
    have none := List.all_eq_true.mp noExprs segment dynamic
    rw [here] at none
    cases none
  · refine ⟨rfl, ?_, rfl, rfl⟩
    intro key differs
    simp [request, Dict.ofList, differs]

end Stencil
