import Stencil.Proofs.Forms
import Stencil.Proofs.Placement.Checked

/-!
# Tags as they are written

Every tag of a template that compiles goes back to a tag that the walk over the text
meets. With that tag and the form around it is known all that initialization has made of
it: what a field does not say itself is taken from the form as that was written, and what
the form does not say either from the configuration.
-/
namespace Stencil

open Markup (Occurrence)

/-- The head of a form with all that its tag does not say. -/
def Head.ofForm (head : Head) : Head := head.setDefault "x:required" "1"

/-- The form around a tag, the innermost one if there were several. -/
def Mark.form? (mark : Mark) : Option LiveTag := mark.forms.head?

/-- What initialization makes of a tag, with the form around it. -/
structure Mark.Becomes (messages : Messages) (mark : Mark) (tag : Node) : Prop where
  kind : tag.kind.bare = mark.tag.kind.bare
  field : tag.kind.validates → ∃ form id, mark.form? = some form ∧ mark.id? = some id ∧
    tag.head = mark.tag.head.ofField messages form.head.ofForm tag.kind id
  form : tag.kind.isForm → tag.head = mark.tag.head.ofForm
  rest : tag.kind.validates = false → tag.kind.isForm = false → tag.head = mark.tag.head

/-- The ids that a form holds have no part in this. -/
theorem Mark.Becomes.congr {messages : Messages} {mark : Mark} {tag other : Node}
    (becomes : mark.Becomes messages tag) (head : other.head = tag.head)
    (kind : other.kind.bare = tag.kind.bare) : mark.Becomes messages other := by
  refine ⟨kind.trans becomes.kind, ?_, ?_, ?_⟩
  · intro field
    have same := TagKind.eq_of_bare kind field
    rw [same] at field
    rw [head, same]
    exact becomes.field field
  · intro isForm
    rw [← TagKind.isForm_bare, kind, TagKind.isForm_bare] at isForm
    rw [head]
    exact becomes.form isForm
  · intro noField noForm
    rw [← TagKind.validates_bare, kind, TagKind.validates_bare] at noField
    rw [← TagKind.isForm_bare, kind, TagKind.isForm_bare] at noForm
    rw [head]
    exact becomes.rest noField noForm

/-- The name a field is submitted under, which is its id if none is written. -/
def Mark.name? (mark : Mark) : Option String := (mark.tag.head.attr? "name").or mark.id?

theorem Mark.Becomes.name?_eq {messages : Messages} {mark : Mark} {tag : Node}
    (becomes : mark.Becomes messages tag) (field : tag.kind.validates) :
    mark.name? = some tag.head.fieldName := by
  obtain ⟨form, id, -, given, head⟩ := becomes.field field
  rw [Mark.name?, given, head, Head.fieldName, Head.attrD, Head.attr?_ofField]
  simp only [String.reduceEq, if_false, if_true, Option.getD_some, Head.attrD]
  cases mark.tag.head.attr? "name" <;> rfl

/-- A walk is at a place of a template, and has met the tags there. -/
structure Walk.At (messages : Messages) (walk : Walk) (site : Site) : Prop where
  live : walk.left = 0
  statics : site.statics = walk.statics
  form : site.form.map OpenForm.head
    = (walk.opened.find? (·.kind.isForm)).map fun form => form.head.ofForm
  tags : ∀ entry ∈ Tree.entriesIn [] site.trees, ∃ mark ∈ walk.marks,
    mark.Becomes messages entry.tag

namespace Walk.At

variable {setting : Setting} {messages : Messages} {walk : Walk} {site around : Site}
  {occurrence : Occurrence} {tag : Node}

theorem pushText (placed : walk.At messages site) (text : List Char) :
    walk.At messages (site.pushText text) :=
  ⟨placed.live, placed.statics, placed.form, placed.tags⟩

/-- The form that a field is registered with is the one around it in the walk. -/
theorem becomes_of_outcome {mark : Mark} {opening : Opening}
    (placed : walk.At setting.config.messages site) (within : mark.around = walk.opened)
    (outcome : Opening.Outcome setting.config (site.opening mark.tag.head mark.tag.kind) opening) :
    mark.Becomes setting.config.messages ⟨opening.head, opening.kind, none, [], [], false⟩ := by
  obtain ⟨kind, -⟩ := outcome.kept
  have kind : opening.kind.bare = mark.tag.kind.bare := kind
  refine ⟨kind, ?_, ?_, ?_⟩
  · intro field
    have field : opening.kind.validates := field
    rw [← TagKind.validates_bare, kind, TagKind.validates_bare] at field
    obtain ⟨same, head, id, registered, completed⟩ := outcome.registered field
    obtain ⟨formId, node, ids, found, rfl, -⟩ := registered.inForm
    rw [site.form?_opening] at found
    obtain ⟨form, here, same'⟩ := Option.map_eq_some_iff.mp found
    -- The form at the place is the innermost one that is open in the walk.
    have written := placed.form
    rw [here, Option.map_some, eq_comm, Option.map_eq_some_iff] at written
    obtain ⟨outer, isOpen, isHead⟩ := written
    refine ⟨outer, id, ?_, registered.given, ?_⟩
    · rw [Mark.form?, Mark.forms, List.head?_filter, within]
      exact isOpen
    · rw [isHead]
      cases same'
      dsimp only
      rw [same]
      exact completed
  · intro isForm
    have isForm : opening.kind.isForm := isForm
    rw [← TagKind.isForm_bare, kind, TagKind.isForm_bare] at isForm
    exact (outcome.head_of_isForm isForm).2
  · intro noField noForm
    have noField : opening.kind.validates = false := noField
    have noForm : opening.kind.isForm = false := noForm
    rw [← TagKind.validates_bare, kind, TagKind.validates_bare] at noField
    rw [← TagKind.isForm_bare, kind, TagKind.isForm_bare] at noForm
    exact outcome.head_eq noField noForm

/-- A tag that is opened is the one the walk meets, and the walk goes on with it. -/
theorem openTag (placed : walk.At setting.config.messages site) (opens : occurrence.closing = false)
    (done : site.openTag setting occurrence = .ok (tag, around)) :
    ∃ mark : Mark, mark.Becomes setting.config.messages tag ∧
      walk.step setting occurrence = some {
        statics := around.statics
        opened := if occurrence.selfClosing || around.leavesOut tag then walk.opened
          else mark.tag :: walk.opened
        left := if !occurrence.selfClosing && around.leavesOut tag then 1 else 0
        marks := walk.marks ++ [mark] } := by
  obtain ⟨kind, attributes, opening, known, read, init, rfl, form, -, -, rfl⟩ :=
    Site.openTag_eq_ok done
  rw [placed.statics] at read
  obtain ⟨mark, marked, -, rfl, head, within⟩ := Walk.exists_mark placed.live known opens read
  rw [← head] at init
  have outcome := Opening.outcome_of_init init
  exact ⟨mark, placed.becomes_of_outcome within outcome,
    Walk.step_of_outcome marked outcome rfl rfl placed.statics⟩

variable {mark : Mark}

/-- Behind a tag that closes itself or leaves something out the walk is where it was. -/
theorem beside (placed : walk.At messages site) (mark : Mark) (trees : around.trees = site.trees)
    (follows : site.Follows around) :
    ({ walk with statics := around.statics, left := 0, marks := walk.marks ++ [mark] } :
      Walk).At messages around := by
  refine ⟨rfl, rfl, follows.trans placed.form, ?_⟩
  intro entry member
  rw [trees] at member
  obtain ⟨mark', met, becomes⟩ := placed.tags entry member
  exact ⟨mark', List.mem_append_left _ met, becomes⟩

theorem inside (placed : walk.At messages around) (becomes : mark.Becomes messages tag) :
    ({ walk with opened := mark.tag :: walk.opened } : Walk).At messages
      (around.inside tag) := by
  refine ⟨placed.live, placed.statics, ?_, nofun⟩
  have same : mark.tag.kind.isForm = tag.kind.isForm := by
    rw [← TagKind.isForm_bare, ← becomes.kind, TagKind.isForm_bare]
  rw [Site.inside, List.find?_cons, same]
  cases isForm : tag.kind.isForm with
  | true =>
    obtain ⟨ids, -, open_⟩ := OpenForm.of?_of_isForm tag.head isForm
    rw [open_]
    exact congrArg some (becomes.form isForm)
  | false =>
    rw [OpenForm.of?_of_not_isForm tag.head isForm]
    exact placed.form

/-- Behind a tag with something in it the walk has met all that. -/
theorem behind {within : Site} {walk' : Walk} (placed : walk.At messages around)
    (inner : walk'.At messages within) (follows : (around.inside tag).Follows within)
    (met : mark ∈ walk'.marks) (earlier : walk.marks ⊆ walk'.marks)
    (becomes : mark.Becomes messages tag) :
    ({ walk' with opened := walk.opened } : Walk).At messages
      (around.behind messages tag within) := by
  refine ⟨inner.live, inner.statics, ?_, ?_⟩
  · have placed' : around.Follows (around.behind messages tag within) := Site.follows_behind follows
    exact placed'.trans placed.form
  · intro entry member
    have member : entry ∈ Tree.entriesIn [] (around.trees ++ [within.closed tag]) := member
    rw [Tree.entriesIn_append, Tree.entriesIn_singleton] at member
    rcases List.mem_append.mp member with before | here
    · obtain ⟨mark', met', becomes'⟩ := placed.tags entry before
      exact ⟨mark', earlier met', becomes'⟩
    · rcases Tree.mem_entries.mp here with rfl | ⟨entry, later, rfl⟩
      · obtain ⟨kind, closed, cases⟩ := within.closed_tag tag
        refine ⟨mark, met, becomes.congr ?_ ?_⟩
        · rw [closed]
        · rw [closed]
          rcases cases with rfl | ⟨isForm, isForm'⟩
          · rfl
          · -- A form that is closed holds the ids of what is in it.
            obtain ⟨ids, rfl⟩ := TagKind.exists_ids_of_isForm isForm
            obtain ⟨ids', same⟩ := TagKind.exists_ids_of_isForm isForm'
            rw [same]
            rfl
      · exact inner.tags entry later

end Walk.At

namespace Forest

/-- The walk over nested tags. -/
def walk (setting : Setting) (forest : Forest) (start : Walk) : Option Walk :=
  (forest.parts.map (·.tag)).foldlM (Walk.step setting) start

variable {setting : Setting} {forest : Forest} {walk : Walk}

private theorem walk_single (gap : List Char) (tag : Occurrence) (rest : Forest) :
    (single gap tag rest).walk setting walk = (walk.step setting tag).bind (rest.walk setting) := by
  rw [Forest.walk, parts, List.map_cons, List.foldlM_cons]
  rfl

private theorem walk_element (gap : List Char) (opening : Occurrence) (inner : Forest)
    (closing : Occurrence) (rest : Forest) :
    (element gap opening inner closing rest).walk setting walk =
      (walk.step setting opening).bind fun entered =>
        (inner.walk setting entered).bind fun inside =>
          (inside.step setting closing).bind (rest.walk setting) := by
  rw [Forest.walk, parts, List.cons_append, List.map_cons, List.map_append, List.map_cons,
    List.foldlM_cons]
  simp only [List.foldlM_append, List.foldlM_cons]
  rfl

/-- What is left out is passed over. -/
theorem walk_left_out (proper : forest.Proper) (left : walk.left ≠ 0) :
    forest.walk setting walk = some walk := by
  induction forest generalizing walk with
  | text behind => rfl
  | single gap tag rest ih =>
    obtain ⟨opens, closes, proper⟩ := proper
    rw [walk_single, Walk.step, opens, if_neg Bool.false_ne_true, if_pos left, if_pos closes]
    exact ih proper left
  | element gap opening inner closing rest ihInner ihRest =>
    obtain ⟨⟨opens, plain⟩, ⟨closes, -⟩, -, properInner, properRest⟩ := proper
    have enter : walk.step setting opening = some { walk with left := walk.left + 1 } := by
      rw [Walk.step, opens, if_neg Bool.false_ne_true, if_pos left, plain,
        if_neg Bool.false_ne_true]
    have inside : inner.walk setting { walk with left := walk.left + 1 }
        = some { walk with left := walk.left + 1 } :=
      ihInner properInner (Nat.succ_ne_zero _)
    have leave : ({ walk with left := walk.left + 1 } : Walk).step setting closing
        = some walk := by
      rw [Walk.step, if_pos closes, Walk.close]
    rw [walk_element, enter, Option.bind_some, inside, Option.bind_some, leave]
    exact ihRest properRest left

/-- The walk over nested tags meets all tags that grow from them. -/
theorem walk_of_grow (proper : forest.Proper) {site next : Site}
    (done : forest.grow setting site = .ok next) (placed : walk.At setting.config.messages site) :
    ∃ walk', forest.walk setting walk = some walk' ∧
      walk'.At setting.config.messages next ∧ walk'.opened = walk.opened ∧
      walk.marks ⊆ walk'.marks := by
  -- The tags that are open stay the same, so a closing tag closes the tag it belongs to.
  induction forest generalizing walk site next with
  | text behind =>
    cases done
    exact ⟨walk, rfl, placed.pushText behind, rfl, List.Subset.refl _⟩
  | single gap opening rest ih =>
    obtain ⟨opens, closes, proper⟩ := proper
    obtain ⟨⟨tag, around⟩, opened, done⟩ := bind_eq_ok.mp done
    obtain ⟨mark, becomes, stepped⟩ := (placed.pushText gap).openTag opens opened
    rw [closes, Bool.true_or, if_pos rfl, Bool.not_true, Bool.false_and,
      if_neg Bool.false_ne_true] at stepped
    have beside := (placed.pushText gap).beside mark (Site.trees_of_openTag opened)
      (Site.follows_of_openTag opened)
    have more : walk.marks ⊆ walk.marks ++ [mark] := List.subset_append_left _ _
    rw [walk_single, stepped, Option.bind_some]
    dsimp only at done
    split at done
    · obtain ⟨walk', ran, placed', same, later⟩ := ih proper done beside
      exact ⟨walk', ran, placed', same, List.Subset.trans more later⟩
    · have behind := beside.behind (beside.inside becomes) rfl (by simp) (List.Subset.refl _)
        becomes
      obtain ⟨walk', ran, placed', same, later⟩ := ih proper done behind
      exact ⟨walk', ran, placed', same, List.Subset.trans more later⟩
  | element gap opening inner closing rest ihInner ihRest =>
    obtain ⟨⟨opens, plain⟩, ⟨closes, -⟩, -, properInner, properRest⟩ := proper
    obtain ⟨⟨tag, around⟩, opened, done⟩ := bind_eq_ok.mp done
    obtain ⟨mark, becomes, stepped⟩ := (placed.pushText gap).openTag opens opened
    rw [plain, Bool.false_or, Bool.not_false, Bool.true_and] at stepped
    have beside := (placed.pushText gap).beside mark (Site.trees_of_openTag opened)
      (Site.follows_of_openTag opened)
    have more : walk.marks ⊆ walk.marks ++ [mark] := List.subset_append_left _ _
    rw [walk_element, stepped, Option.bind_some]
    dsimp only at done
    cases leavesOut : around.leavesOut tag with
    | true =>
      rw [leavesOut, if_pos rfl] at done
      -- What is inside is only counted.
      rw [if_pos rfl, if_pos rfl, walk_left_out properInner Nat.one_ne_zero, Option.bind_some,
        Walk.step, if_pos closes, Walk.close]
      obtain ⟨walk', ran, placed', same, later⟩ := ihRest properRest done beside
      exact ⟨walk', ran, placed', same, List.Subset.trans more later⟩
    | false =>
      rw [leavesOut, if_neg Bool.false_ne_true] at done
      obtain ⟨within, grown, done⟩ := bind_eq_ok.mp done
      obtain ⟨middle, walked, inside, same, met⟩ :=
        ihInner properInner grown (beside.inside becomes)
      have behind := beside.behind inside (follows_of_grow grown) (met (by simp)) met becomes
      have leave : middle.step setting closing = some { middle with opened := walk.opened } := by
        rw [Walk.step, if_pos closes, Walk.close, inside.live, same]
      rw [if_neg Bool.false_ne_true, if_neg Bool.false_ne_true]
      obtain ⟨walk', ran, placed', same', later⟩ := ihRest properRest done behind
      refine ⟨walk', ?_, placed', same', List.Subset.trans more (List.Subset.trans met later)⟩
      rw [show _ = some middle from walked, Option.bind_some, leave]
      exact ran

end Forest

/-- Every tag of a template that compiles goes back to a tag that is met in its text. -/
theorem Compiled.GrownFrom.walked {setting : Setting} {text : String} {compiled : Compiled}
    {site : Site} (grown : compiled.GrownFrom setting text site) :
    ∃ walk, Walk.run setting (setting.tags text) = some walk ∧
      ∀ entry ∈ Tree.entriesIn [] site.trees, ∃ mark ∈ walk.marks,
        mark.Becomes setting.config.messages entry.tag := by
  obtain ⟨⟨forest, proper, scanned, grows⟩, -, -⟩ := grown
  have start : ({} : Walk).At setting.config.messages {} := ⟨rfl, rfl, rfl, nofun⟩
  obtain ⟨walk, ran, placed, -, -⟩ := forest.walk_of_grow proper grows start
  refine ⟨walk, ?_, placed.tags⟩
  rw [Walk.run, Setting.tags, ← scanned]
  exact ran

end Stencil
