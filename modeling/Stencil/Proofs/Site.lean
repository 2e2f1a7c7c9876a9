import Stencil.Proofs.Forest
import Stencil.Proofs.Outline.Skipping
import Stencil.Proofs.Tree

/-!
# Growing trees from nested tags

What becomes of nested tags, from the outside in: every tag is opened where it stands,
what is in it is compiled unless it is a conditional that fails, and then the tag leaves
its fragment and its tree. Of its surroundings a tag sees the static attributes and the
form around it.
-/
namespace Stencil

open Markup (Occurrence Part)

/-- An open form, with the ids of the fields in it so far. -/
structure OpenForm where
  head : Head
  fieldIds : List String

namespace OpenForm

def kind (form : OpenForm) : TagKind := .form form.fieldIds

def node (form : OpenForm) : Node := ⟨form.head, form.kind, none, [], [], false⟩

/-- The form that is open inside of a form tag; other tags have none. -/
def of? (head : Head) : TagKind → Option OpenForm
  | .form fieldIds => some ⟨head, fieldIds⟩
  | _ => none

end OpenForm

/-- A place in a template: what a tag there sees, and what the tags before it inside of
the same tag have left. -/
structure Site where
  statics : Statics := .empty
  form : Option OpenForm := none
  body : Fragment := []
  trees : List Tree := []

namespace Site

def pushText (site : Site) (text : List Char) : Site :=
  { site with body := site.body.pushText (String.ofList text) }

/-- A tag that is being opened here. -/
def opening (site : Site) (head : Head) (kind : TagKind) : Opening where
  head
  kind
  parent := 0
  arena := ⟨(site.form.map OpenForm.node).toArray⟩
  statics := site.statics

/-- Open a tag. Gives the tag, and what the place has become by that. -/
def openTag (setting : Setting) (site : Site) (tag : Occurrence) :
    Except CompileError (Node × Site) :=
  match setting.registry.tag? tag.namespaceName tag.name with
  | none => .error (.unknownTag (setting.ref tag))
  | some kind => do
    let attributes ← setting.attributesOf site.statics true tag
    let head : Head := ⟨tag.namespaceName, tag.name, attributes, setting.location tag⟩
    let opening ← (site.opening head kind).init setting.config
    return (⟨opening.head, opening.kind, none, [], [], false⟩, { site with
      statics := opening.statics
      form := (opening.arena.node? 0).bind fun form => OpenForm.of? form.head form.kind })

/-- Whether what is in a tag that was opened here is left out. -/
def leavesOut (site : Site) (tag : Node) : Bool := tag.kind.passes? site.statics == some false

/-- The place inside of a tag that was opened here. -/
def inside (site : Site) (tag : Node) : Site where
  statics := site.statics
  form := (OpenForm.of? tag.head tag.kind).or site.form

/-- A tag whose inside has become this. -/
def closed (within : Site) (tag : Node) : Tree :=
  let kind := if tag.kind.isForm then (within.form.map OpenForm.kind).getD tag.kind else tag.kind
  .node tag.head kind within.body within.trees

/-- The place behind a tag that was opened here. -/
def behind (messages : Messages) (site : Site) (tag : Node) (within : Site) : Site where
  statics := within.statics
  form := if tag.kind.isForm then site.form else within.form
  body := site.body.append ((within.closed tag).tag.render messages)
  trees := site.trees ++ [within.closed tag]

end Site

/-- What nested tags make of the place they stand at. -/
def Forest.grow (setting : Setting) : Forest → Site → Except CompileError Site
  | .text behind, site => .ok (site.pushText behind)
  | .single gap opening rest, site => do
    let (tag, site) ← (site.pushText gap).openTag setting opening
    if site.leavesOut tag then rest.grow setting site
    else rest.grow setting (site.behind setting.config.messages tag (site.inside tag))
  | .element gap opening inner _ rest, site => do
    let (tag, site) ← (site.pushText gap).openTag setting opening
    if site.leavesOut tag then rest.grow setting site
    else
      let within ← inner.grow setting (site.inside tag)
      rest.grow setting (site.behind setting.config.messages tag within)

/-! ### One tag -/

namespace OpenForm

theorem of?_of_not_isForm (head : Head) {kind : TagKind} (noForm : kind.isForm = false) :
    of? head kind = none := by
  cases kind <;> first | rfl | cases noForm

theorem of?_of_isForm (head : Head) {kind : TagKind} (isForm : kind.isForm) :
    ∃ fieldIds, kind = .form fieldIds ∧ of? head kind = some ⟨head, fieldIds⟩ := by
  cases kind with
  | form fieldIds => exact ⟨fieldIds, rfl, rfl⟩
  | _ => cases isForm

end OpenForm

namespace Site

variable {setting : Setting} {site around within : Site} {occurrence : Occurrence} {tag : Node}

/-- The form around is the one that was around before. -/
def Follows (site next : Site) : Prop := next.form.map OpenForm.head = site.form.map OpenForm.head

theorem form?_opening (site : Site) (head : Head) (kind : TagKind) :
    (site.opening head kind).form? = site.form.map fun form => (0, form.node) := by
  cases around : site.form with
  | none => simp [Opening.form?, opening, Arena.findAncestor?, Arena.ancestors,
      Arena.selfAndAncestors, Arena.parent?, Arena.node?, around]
  | some form =>
    have isForm : form.kind.isForm := rfl
    simp [Opening.form?, opening, Arena.findAncestor?, Arena.ancestors, Arena.selfAndAncestors,
      Arena.parent?, Arena.node?, around, isForm, OpenForm.node]

/-- The kind of the form an opening was given, after a change to it. -/
theorem kind_withForm_opening (site : Site) (head : Head) (kind : TagKind)
    (change : Option TagKind) :
    (((site.opening head kind).withForm change).node? 0).map Node.kind
      = site.form.map fun form => change.getD form.kind := by
  have given := site.form?_opening head kind
  cases around : site.form with
  | none =>
    rw [around, Option.map_none] at given
    rw [Opening.withForm_of_none given, Site.opening, around]
    rfl
  | some form =>
    rw [around, Option.map_some] at given
    cases change with
    | none =>
      rw [Opening.withForm, Site.opening, around]
      rfl
    | some newKind =>
      rw [Opening.withForm_of_some given, Arena.node?_update_self, Site.opening, around]
      rfl

/-- What an opening has made of the form it was given. -/
theorem exists_form_of_init {config : Config} {head : Head} {kind : TagKind} {opening : Opening}
    (done : (site.opening head kind).init config = .ok opening) :
    ∃ form : Option OpenForm, opening.arena.node? 0 = form.map OpenForm.node ∧
      form.map OpenForm.head = site.form.map OpenForm.head := by
  obtain ⟨ids, changed⟩ := (Opening.completed_of_init done).arena
  have given := site.form?_opening head kind
  rw [changed]
  cases here : site.form with
  | none =>
    rw [here] at given
    rw [Opening.withForm_of_none given, Site.opening, here]
    exact ⟨none, rfl, rfl⟩
  | some form =>
    rw [here] at given
    cases ids with
    | none =>
      rw [Option.map_none, Opening.withForm, Site.opening, here]
      exact ⟨some form, rfl, rfl⟩
    | some ids =>
      rw [Option.map_some, Opening.withForm_of_some given, Arena.node?_update_self, Site.opening,
        here]
      exact ⟨some { form with fieldIds := ids }, rfl, rfl⟩

/-- A known tag is opened if it is initialized where it stands. -/
theorem openTag_of_init {kind : TagKind} {attributes : Dict String} {opening : Opening}
    {form : Option OpenForm}
    (known : setting.registry.tag? occurrence.namespaceName occurrence.name = some kind)
    (read : setting.attributesOf site.statics true occurrence = .ok attributes)
    (init : (site.opening ⟨occurrence.namespaceName, occurrence.name, attributes,
      setting.location occurrence⟩ kind).init setting.config = .ok opening)
    (formed : opening.arena.node? 0 = form.map OpenForm.node) :
    site.openTag setting occurrence = .ok
      (⟨opening.head, opening.kind, none, [], [], false⟩,
        { site with statics := opening.statics, form }) := by
  have same :
      ((form.map OpenForm.node).bind fun node => OpenForm.of? node.head node.kind) = form := by
    cases form <;> rfl
  unfold openTag
  rw [known]
  simp only [read, init, bind, Except.bind, formed]
  rw [same]
  rfl

/-- A tag that is opened is known, and initialized where it stands. -/
theorem openTag_eq_ok (done : site.openTag setting occurrence = .ok (tag, around)) :
    ∃ kind attributes opening,
      setting.registry.tag? occurrence.namespaceName occurrence.name = some kind ∧
      setting.attributesOf site.statics true occurrence = .ok attributes ∧
      (site.opening ⟨occurrence.namespaceName, occurrence.name, attributes,
        setting.location occurrence⟩ kind).init setting.config = .ok opening ∧
      tag = ⟨opening.head, opening.kind, none, [], [], false⟩ ∧
      ∃ form : Option OpenForm, opening.arena.node? 0 = form.map OpenForm.node ∧
        form.map OpenForm.head = site.form.map OpenForm.head ∧
        around = { site with statics := opening.statics, form } := by
  unfold openTag at done
  split at done
  · cases done
  · next kind known =>
    obtain ⟨attributes, read, opened⟩ := bind_eq_ok.mp done
    obtain ⟨opening, init, -⟩ := bind_eq_ok.mp opened
    obtain ⟨form, formed, same⟩ := exists_form_of_init init
    have opens := openTag_of_init known read init formed
    unfold openTag at opens
    rw [known] at opens
    cases done.symm.trans opens
    exact ⟨kind, attributes, opening, known, read, init, rfl, form, formed, same, rfl⟩

/-- A tag keeps its name and its place. -/
theorem ref_of_openTag (done : site.openTag setting occurrence = .ok (tag, around)) :
    tag.head.ref = setting.ref occurrence := by
  obtain ⟨kind, attributes, opening, -, -, init, rfl, -⟩ := openTag_eq_ok done
  exact Opening.ref_of_init init

theorem trees_of_openTag (done : site.openTag setting occurrence = .ok (tag, around)) :
    around.trees = site.trees := by
  obtain ⟨_, _, _, _, _, _, _, _, _, _, rfl⟩ := openTag_eq_ok done
  rfl

theorem follows_of_openTag (done : site.openTag setting occurrence = .ok (tag, around)) :
    site.Follows around := by
  obtain ⟨kind, attributes, opening, -, -, -, -, form, -, same, rfl⟩ := openTag_eq_ok done
  exact same

/-- A tag that is closed at once changes neither the static attributes nor the form. -/
theorem behind_inside (messages : Messages) (site : Site) (tag : Node) :
    site.behind messages tag (site.inside tag) = { site with
      body := site.body.append ((Tree.node tag.head tag.kind [] []).tag.render messages)
      trees := site.trees ++ [.node tag.head tag.kind [] []] } := by
  have tree : (site.inside tag).closed tag = .node tag.head tag.kind [] [] := by
    unfold closed inside
    cases isForm : tag.kind.isForm with
    | true =>
      obtain ⟨fieldIds, kind, same⟩ := OpenForm.of?_of_isForm tag.head isForm
      rw [if_pos rfl, same, kind]
      rfl
    | false => rfl
  rw [behind, tree]
  cases isForm : tag.kind.isForm with
  | true => simp [inside]
  | false => simp [inside, OpenForm.of?_of_not_isForm _ isForm]

theorem follows_behind {messages : Messages} (follows : (around.inside tag).Follows within) :
    around.Follows (around.behind messages tag within) := by
  unfold Follows behind inside at *
  cases isForm : tag.kind.isForm with
  | true => rfl
  | false =>
    rw [OpenForm.of?_of_not_isForm _ isForm] at follows
    exact follows

end Site

/-! ### Forests -/

/-- What every tag keeps is kept by nested tags: text, tags that are opened, and tags
that are closed when what is in them has kept it. -/
theorem Forest.grow_induct {setting : Setting} {keeps : Site → Site → Prop}
    (refl : ∀ site, keeps site site)
    (trans : ∀ {a b c}, keeps a b → keeps b c → keeps a c)
    (pushText : ∀ (site : Site) text, keeps site (site.pushText text))
    (opens : ∀ {site around : Site} {occurrence tag},
      site.openTag setting occurrence = .ok (tag, around) → keeps site around)
    (closes : ∀ {site around within : Site} {occurrence tag},
      site.openTag setting occurrence = .ok (tag, around) → keeps (around.inside tag) within →
      keeps around (around.behind setting.config.messages tag within))
    {forest : Forest} {site next : Site} (done : forest.grow setting site = .ok next) :
    keeps site next := by
  induction forest generalizing site next with
  -- The closing of a tag is the only step that needs to know of what grew inside.
  | text behind =>
    cases done
    exact pushText site behind
  | single gap opening rest ih =>
    obtain ⟨⟨tag, around⟩, opened, done⟩ := bind_eq_ok.mp done
    have before := trans (pushText site gap) (opens opened)
    dsimp only at done
    split at done
    · exact trans before (ih done)
    · exact trans (trans before (closes opened (refl _))) (ih done)
  | element gap opening inner closing rest ihInner ihRest =>
    obtain ⟨⟨tag, around⟩, opened, done⟩ := bind_eq_ok.mp done
    have before := trans (pushText site gap) (opens opened)
    dsimp only at done
    split at done
    · exact trans before (ihRest done)
    · obtain ⟨within, grown, done⟩ := bind_eq_ok.mp done
      exact trans (trans before (closes opened (ihInner grown))) (ihRest done)

/-- An invariant of places. All along, the form around is the one that was around before. -/
theorem Forest.grow_invariant {setting : Setting} {invariant : Site → Prop}
    (pushText : ∀ (site : Site) text, invariant site → invariant (site.pushText text))
    (opens : ∀ {site around : Site} {occurrence tag},
      site.openTag setting occurrence = .ok (tag, around) → invariant site → invariant around)
    (closes : ∀ {site around within : Site} {occurrence tag},
      site.openTag setting occurrence = .ok (tag, around) → (around.inside tag).Follows within →
      (invariant (around.inside tag) → invariant within) → invariant around →
      invariant (around.behind setting.config.messages tag within))
    {forest : Forest} {site next : Site} (done : forest.grow setting site = .ok next)
    (start : invariant site) : invariant next := by
  -- An induction over the growth needs to know that the open form stays the same.
  let keeps (site next : Site) : Prop := site.Follows next ∧ (invariant site → invariant next)
  have kept : keeps site next := by
    refine Forest.grow_induct ?_ ?_ ?_ ?_ ?_ done
    · intro site
      exact ⟨rfl, id⟩
    · intro a b c first second
      exact ⟨second.1.trans first.1, second.2 ∘ first.2⟩
    · intro site text
      exact ⟨rfl, pushText site text⟩
    · intro site around occurrence tag opened
      exact ⟨Site.follows_of_openTag opened, opens opened⟩
    · intro site around within occurrence tag opened inside
      exact ⟨Site.follows_behind inside.1, closes opened inside.1 inside.2⟩
  exact kept.2 start

theorem Forest.follows_of_grow {setting : Setting} {forest : Forest} {site next : Site}
    (done : forest.grow setting site = .ok next) : site.Follows next := by
  refine Forest.grow_invariant ?_ ?_ ?_ done rfl
  · intro place text follows
    exact follows
  · intro place around occurrence tag opened follows
    exact (Site.follows_of_openTag opened).trans follows
  · intro place around within occurrence tag _ inside _ follows
    exact (Site.follows_behind inside).trans follows

end Stencil
