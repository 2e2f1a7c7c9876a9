import Stencil.Proofs.Site

/-!
# Templates grow

Compiling a template makes of it what its nested tags grow to, and the forms it finds
are those of its form tags, in the order these are closed.
-/
namespace Stencil

open Markup (Occurrence Part)

namespace Frame

/-- The innermost form among open tags. -/
def openForm? : List Frame → Option OpenForm
  | [] => none
  | frame :: outer => (OpenForm.of? frame.head frame.kind).or (openForm? outer)

private theorem find?_isForm (frames : List Frame) :
    (frames.find? (·.kind.isForm)).map (fun frame => (frame.head, frame.kind))
      = (openForm? frames).map fun form => (form.head, form.kind) := by
  induction frames with
  | nil => rfl
  | cons frame outer ih =>
    rw [openForm?, List.find?_cons]
    cases isForm : frame.kind.isForm with
    | true =>
      obtain ⟨fieldIds, kind, same⟩ := OpenForm.of?_of_isForm frame.head isForm
      rw [same]
      exact congrArg (fun kind => some (frame.head, kind)) kind
    | false =>
      rw [OpenForm.of?_of_not_isForm _ isForm, Option.none_or]
      exact ih

private theorem changeForm_openForm {frames : List Frame} {form : OpenForm}
    (around : openForm? frames = some form) : changeForm form.kind frames = frames := by
  have listed := find?_isForm frames
  rw [around, Option.map_some, Option.map_eq_some_iff] at listed
  obtain ⟨frame, found, same⟩ := listed
  have kind : frame.kind = form.kind := (Prod.mk.inj same).2
  rw [← kind]
  exact changeForm_self found

private theorem openForm?_changeForm (fieldIds : List String) (frames : List Frame) :
    openForm? (changeForm (.form fieldIds) frames)
      = (openForm? frames).map fun form => { form with fieldIds } := by
  induction frames with
  | nil => rfl
  | cons frame outer ih =>
    rw [changeForm]
    cases isForm : frame.kind.isForm with
    | true =>
      obtain ⟨ids, -, same⟩ := OpenForm.of?_of_isForm frame.head isForm
      rw [if_pos rfl, openForm?, openForm?, same]
      rfl
    | false =>
      simp only [if_neg Bool.false_ne_true, openForm?, ih]
      rw [OpenForm.of?_of_not_isForm _ isForm, Option.none_or, Option.none_or]

private theorem changeForm_changeForm (fieldIds : List String) (kind : TagKind)
    (frames : List Frame) :
    changeForm kind (changeForm (.form fieldIds) frames) = changeForm kind frames := by
  induction frames with
  | nil => rfl
  | cons frame outer ih =>
    have form : (TagKind.form fieldIds).isForm = true := rfl
    cases isForm : frame.kind.isForm with
    | true => simp [changeForm, isForm, form]
    | false => simp [changeForm, isForm, ih]

end Frame

namespace Outline

/-- The innermost open tag as a place. -/
def site (outline : Outline) : Site :=
  ⟨outline.statics, Frame.openForm? outline.frames, outline.top.body, outline.top.inner⟩

/-- The outline when the inside of the innermost open tag has become this, and more forms
have been closed. -/
def become (outline : Outline) (site : Site) (forms : List Form) (pushes pops : Nat) : Outline :=
  let changed := outline.changeForm (site.form.map OpenForm.kind)
  { changed with
    top := { changed.top with body := site.body, inner := site.trees }
    statics := site.statics
    forms := outline.forms ++ forms
    pushes
    pops }

variable {setting : Setting} {outline next : Outline} {here later : Site}

/-- The form around is the innermost open tag. -/
private theorem become_of_isForm {form : OpenForm} (given : here.form = some form)
    (isForm : outline.top.kind.isForm) (forms : List Form) (pushes pops : Nat) :
    outline.become here forms pushes pops = { outline with
      top := { outline.top with kind := form.kind, body := here.body, inner := here.trees }
      statics := here.statics
      forms := outline.forms ++ forms
      pushes
      pops } := by
  simp [become, changeForm, Frame.changeForm, frames, given, isForm]

/-- The form around is further out. -/
private theorem become_of_not_isForm {form : OpenForm} (given : here.form = some form)
    (noForm : outline.top.kind.isForm = false) (forms : List Form) (pushes pops : Nat) :
    outline.become here forms pushes pops = { outline with
      top := { outline.top with body := here.body, inner := here.trees }
      outer := Frame.changeForm form.kind outline.outer
      statics := here.statics
      forms := outline.forms ++ forms
      pushes
      pops } := by
  simp [become, changeForm, Frame.changeForm, frames, given, noForm]

/-- The form around may have the kind it has. -/
private theorem become_of_form (same : here.form = outline.site.form) (forms : List Form)
    (pushes pops : Nat) : outline.become here forms pushes pops = { outline with
      top := { outline.top with body := here.body, inner := here.trees }
      statics := here.statics
      forms := outline.forms ++ forms
      pushes
      pops } := by
  have unchanged : outline.changeForm (here.form.map OpenForm.kind) = outline := by
    rw [same]
    cases around : outline.site.form with
    | none => rfl
    | some form =>
      have kept : Frame.changeForm form.kind outline.frames = outline.frames :=
        Frame.changeForm_openForm around
      simp only [Option.map_some, changeForm, kept]
      rfl
  simp only [become, unchanged]

/-- What has become of a place is found there. -/
private theorem site_become (follows : outline.site.Follows here) (forms : List Form)
    (pushes pops : Nat) : (outline.become here forms pushes pops).site = here := by
  have heads : here.form.map OpenForm.head = outline.site.form.map OpenForm.head := follows
  cases given : here.form with
  | none =>
    have alone : outline.site.form = none := by simpa [given] using heads.symm
    rw [become_of_form (given.trans alone.symm)]
    obtain ⟨statics, form, body, trees⟩ := here
    exact congrArg (Site.mk statics · body trees) (alone.trans given.symm)
  | some form =>
    obtain ⟨before, around, head⟩ := Option.map_eq_some_iff.mp
      (heads.symm.trans (congrArg (Option.map OpenForm.head) given))
    have around : (OpenForm.of? outline.top.head outline.top.kind).or
        (Frame.openForm? outline.outer) = some before := around
    obtain ⟨statics, _, body, trees⟩ := here
    cases given
    refine congrArg (Site.mk statics · body trees) ?_
    -- The open form is the innermost tag itself, or one around it.
    cases isForm : outline.top.kind.isForm with
    | true =>
      obtain ⟨fieldIds, -, same⟩ := OpenForm.of?_of_isForm outline.top.head isForm
      rw [same] at around
      cases around
      rw [become_of_isForm rfl isForm]
      exact congrArg (fun head => some (OpenForm.mk head form.fieldIds)) head
    | false =>
      rw [OpenForm.of?_of_not_isForm _ isForm, Option.none_or] at around
      rw [become_of_not_isForm rfl isForm, frames, Frame.openForm?,
        OpenForm.of?_of_not_isForm _ isForm, Option.none_or]
      rw [OpenForm.kind, Frame.openForm?_changeForm, around]
      exact congrArg (fun head => some (OpenForm.mk head form.fieldIds)) head

/-- An outline becomes what it becomes in the end. -/
private theorem become_become (first : outline.site.Follows here)
    (second : outline.site.Follows later)
    (forms more : List Form) (pushes pops pushes' pops' : Nat) :
    (outline.become here forms pushes pops).become later more pushes' pops'
      = outline.become later (forms ++ more) pushes' pops' := by
  have heads : later.form.map OpenForm.head = here.form.map OpenForm.head :=
    second.trans first.symm
  cases before : here.form with
  | none =>
    -- Without an open form there is none to change.
    have after : later.form = none := by simpa [before] using heads
    simp only [become, before, after, Option.map_none, changeForm, List.append_assoc]
    rfl
  | some form =>
    obtain ⟨form', after, -⟩ := Option.map_eq_some_iff.mp
      (heads.trans (congrArg (Option.map OpenForm.head) before))
    cases isForm : outline.top.kind.isForm with
    | true =>
      rw [become_of_isForm before isForm, become_of_isForm after isForm,
        become_of_isForm after rfl, List.append_assoc]
    | false =>
      -- The open form is further out, and the second change goes over the first.
      have still : (outline.become here forms pushes pops).top.kind.isForm = false := by
        rwa [become_of_not_isForm before isForm]
      rw [become_of_not_isForm after still, become_of_not_isForm before isForm,
        become_of_not_isForm after isForm, List.append_assoc, OpenForm.kind,
        Frame.changeForm_changeForm]

/-- A change of the form around leaves everything else as it is. -/
private theorem changeForm_eq_become (outline : Outline) (form : Option OpenForm)
    (statics : Statics) :
    { outline.changeForm (form.map OpenForm.kind) with statics } = outline.become
      { outline.site with statics, form } [] outline.pushes outline.pops := by
  cases form with
  | none => simp [become, changeForm, site, frames]
  | some form =>
    cases isForm : outline.top.kind.isForm with
    | true =>
      rw [become_of_isForm rfl isForm, List.append_nil]
      simp [changeForm, Frame.changeForm, frames, isForm, site]
    | false =>
      rw [become_of_not_isForm rfl isForm, List.append_nil]
      simp [changeForm, Frame.changeForm, frames, isForm, site]

/-! ### One tag -/

private theorem form?_site (outline : Outline) :
    outline.form?.map (fun frame => (frame.head, frame.kind))
      = outline.site.form.map fun form => (form.head, form.kind) :=
  Frame.find?_isForm outline.frames

/-- A tag sees of its surroundings what it sees of the place it stands at. -/
private theorem opening_alike_site (outline : Outline) (head : Head) (kind : TagKind) :
    Opening.Alike (· = ·) (outline.opening head kind) (outline.site.opening head kind) := by
  refine ⟨.refl head, rfl, rfl, ?_⟩
  rw [Outline.form?_opening, Site.form?_opening]
  have same := outline.form?_site
  cases listed : outline.form? with
  | none =>
    have alone : outline.site.form = none := by simpa [listed] using same.symm
    rw [alone]
    exact .none
  | some frame =>
    rw [listed] at same
    obtain ⟨form, around, pair⟩ := Option.map_eq_some_iff.mp same.symm
    obtain ⟨head, kind⟩ := Prod.mk.inj pair
    rw [around]
    refine .some ⟨?_, kind.symm⟩
    have equal : frame.node.head = form.node.head := head.symm
    rw [equal]
    exact .refl _

/-- A tag is opened as it is at its place, and the outline becomes what the place does. -/
theorem openTag_site {kind : TagKind} {tag : Occurrence} (active : outline.skip = 0)
    (known : setting.registry.tag? tag.namespaceName tag.name = some kind)
    (done : outline.openTag setting tag kind = .ok next) :
    ∃ node around, outline.site.openTag setting tag = .ok (node, around) ∧
      around.form.map OpenForm.head = outline.site.form.map OpenForm.head ∧
      (outline.become around [] outline.pushes outline.pops).settle setting
        { head := node.head, kind := node.kind } tag.selfClosing
        (node.kind.passes? around.statics) = .ok next := by
  have active' : outline.active = true := by simp [Outline.active, active]
  obtain ⟨attributes, read, done⟩ := bind_eq_ok.mp done
  obtain ⟨opening, init, done⟩ := bind_eq_ok.mp done
  rw [active'] at read
  rw [initOpening, active', if_pos rfl] at init
  let head : Head := ⟨tag.namespaceName, tag.name, attributes, setting.location tag⟩
  obtain ⟨opening', init', same⟩ :=
    (Opening.init_alike setting.config (outline.opening_alike_site head kind)).exists_of_ok init
  have heads := same.head.eq
  obtain ⟨form, formed, follows⟩ := Site.exists_form_of_init init'
  obtain ⟨change, left, right⟩ := same.forms
  -- Both openings do the same to the form around.
  have changed : (opening.arena.node? 0).map Node.kind = form.map OpenForm.kind := by
    have before := outline.kind_withForm_opening head kind change
    have after := outline.site.kind_withForm_opening head kind change
    rw [← left] at before
    rw [← right, formed, Option.map_map] at after
    rw [before]
    refine Eq.trans ?_ after.symm
    have kinds := congrArg (Option.map fun pair => change.getD pair.2) outline.form?_site
    rw [Option.map_map, Option.map_map] at kinds
    exact kinds
  have site := Site.openTag_of_init known read init' formed
  refine ⟨_, _, site, follows, ?_⟩
  have opened : outline.opened opening = outline.become
      { outline.site with statics := opening.statics, form } [] outline.pushes outline.pops := by
    rw [Outline.opened, changed]
    exact outline.changeForm_eq_become form opening.statics
  simp only [active', Bool.true_and, Option.map_id'] at done
  rw [opened, heads, same.kind, same.statics] at done
  exact done

end Outline

/-! ### Forms -/

/-- The forms that form tags among trees define, in the order they are closed. -/
def Form.OfTrees (messages : Messages) (trees : List Tree) (forms : List Form) : Prop :=
  List.Forall₂ (fun tree form => Form.ofTrees messages tree.tag.head tree.inner = .ok form)
    (Tree.formsIn trees) forms

namespace Form.OfTrees

variable {messages : Messages} {trees more : List Tree} {forms later : List Form}

theorem nil : OfTrees messages [] [] := List.Forall₂.nil

theorem append (first : OfTrees messages trees forms) (second : OfTrees messages more later) :
    OfTrees messages (trees ++ more) (forms ++ later) := by
  unfold OfTrees
  rw [Tree.formsIn_append]
  exact List.rel_append first second

/-- A form is closed after those in it. -/
theorem singleton {tree : Tree} {form : Option Form} (inner : OfTrees messages tree.inner forms)
    (closed : if tree.tag.kind.isForm
      then (Form.ofTrees messages tree.tag.head tree.inner).map some = .ok form
      else form = none) :
    OfTrees messages [tree] (forms ++ form.toList) := by
  unfold OfTrees
  rw [Tree.formsIn_singleton]
  refine List.rel_append inner ?_
  split at closed
  · next isForm =>
    obtain ⟨made, done, rfl⟩ := map_eq_ok.mp closed
    rw [if_pos isForm]
    exact .cons done .nil
  · next noForm =>
    rw [if_neg noForm, closed]
    exact .nil

end Form.OfTrees

namespace Outline

variable {setting : Setting} {outline next last : Outline} {here later : Site}

/-- An outline has become another one where the innermost open tag is at this place, and
the forms that were closed are those of the trees that were added. -/
def Becomes (messages : Messages) (outline next : Outline) (here : Site) : Prop :=
  outline.site.Follows here ∧ ∃ trees forms pushes pops,
    here.trees = outline.site.trees ++ trees ∧ Form.OfTrees messages trees forms ∧
      next = outline.become here forms pushes pops

namespace Becomes

variable {messages : Messages}

private theorem site_eq (becomes : outline.Becomes messages next here) : next.site = here := by
  obtain ⟨follows, trees, forms, pushes, pops, -, -, rfl⟩ := becomes
  exact site_become follows forms pushes pops

theorem skip_eq (becomes : outline.Becomes messages next here) : next.skip = outline.skip := by
  obtain ⟨follows, trees, forms, pushes, pops, -, -, rfl⟩ := becomes
  cases here.form <;> rfl

theorem trans (first : outline.Becomes messages next here)
    (second : next.Becomes messages last later) :
    outline.Becomes messages last later := by
  have place := first.site_eq
  obtain ⟨follows, trees, forms, pushes, pops, added, formed, rfl⟩ := first
  obtain ⟨follows', more, forms', pushes', pops', added', formed', rfl⟩ := second
  rw [place] at follows' added'
  refine ⟨follows'.trans follows, trees ++ more, forms ++ forms', pushes', pops', ?_,
    formed.append formed', ?_⟩
  · rw [added', added, List.append_assoc]
  · exact become_become follows (follows'.trans follows) forms forms' pushes pops pushes' pops'

theorem pushText (messages : Messages) (outline : Outline) (text : List Char) :
    outline.Becomes messages (outline.pushText text) (outline.site.pushText text) := by
  refine ⟨rfl, [], [], outline.pushes, outline.pops, (List.append_nil _).symm, .nil, ?_⟩
  have same : (outline.site.pushText text).form = outline.site.form := rfl
  rw [become_of_form same, List.append_nil]
  rfl

/-- Only the counts of opened and closed tags differ. -/
theorem counts (messages : Messages) (outline : Outline) (pushes pops : Nat) :
    outline.Becomes messages { outline with pushes, pops } outline.site := by
  refine ⟨rfl, [], [], pushes, pops, (List.append_nil _).symm, .nil, ?_⟩
  rw [become_of_form rfl, List.append_nil]
  rfl

/-- A tag that is drawn leaves its fragment and its tree, and a form behind those in it. -/
theorem draw {frame : Frame} {forms : List Form} {around : Site}
    (follows : outline.site.Follows around)
    (inner : Form.OfTrees setting.config.messages frame.inner forms) (pushes pops : Nat)
    (same : around.trees = outline.site.trees)
    (done : (outline.become around forms pushes pops).draw setting frame = .ok next) :
    outline.Becomes setting.config.messages next { around with
      body := around.body.append (frame.node.render setting.config.messages)
      trees := around.trees ++ [frame.tree] } := by
  obtain ⟨form, formed, done⟩ := bind_eq_ok.mp done
  let drawn : Site := { around with
    body := around.body.append (frame.node.render setting.config.messages)
    trees := around.trees ++ [frame.tree] }
  have place := site_become follows forms pushes pops
  refine ⟨follows, [frame.tree], forms ++ form.toList, pushes, pops, by rw [same], ?_, ?_⟩
  · -- The drawn tag adds one form if it is one, and none otherwise.
    refine Form.OfTrees.singleton inner ?_
    unfold Frame.form? at formed
    split at formed
    · next isForm => rwa [if_pos (show frame.tree.tag.kind.isForm from isForm)]
    · next noForm =>
      rw [if_neg (show ¬ frame.tree.tag.kind.isForm from noForm)]
      cases formed
      rfl
  · -- Drawing does not touch the form that is open.
    have kept : drawn.form = (outline.become around forms pushes pops).site.form := by rw [place]
    rw [← become_become follows (show outline.site.Follows drawn from follows) forms form.toList
      pushes pops, become_of_form kept]
    cases done
    rfl

/-- A tag that closes itself leaves what an empty one leaves. -/
private theorem draw_at_once {tag : Node}
    (done : outline.draw setting { head := tag.head, kind := tag.kind } = .ok next) :
    outline.Becomes setting.config.messages next
      (outline.site.behind setting.config.messages tag (outline.site.inside tag)) := by
  have same : outline.become outline.site [] outline.pushes outline.pops = outline := by
    rw [become_of_form rfl, List.append_nil]
    rfl
  rw [← same] at done
  rw [Site.behind_inside]
  exact draw rfl Form.OfTrees.nil outline.pushes outline.pops rfl done

end Becomes

section

variable {tag : Node}

/-- The outline inside of a tag that has just been opened. -/
def inside (outline : Outline) (tag : Node) : Outline :=
  outline.enter { head := tag.head, kind := tag.kind } none

/-- A conditional that holds is entered like any other tag. -/
theorem enter_eq_inside {passed : Option Bool} (goesOn : (passed == some false) = false) :
    outline.enter { head := tag.head, kind := tag.kind } passed = outline.inside tag := by
  simp only [inside, enter, goesOn]
  rfl

private theorem site_inside (outline : Outline) (tag : Node) :
    (outline.inside tag).site = outline.site.inside tag := rfl

/-- The tag that is closed when its inside has become this, and the outline around it. The
form around it may have changed meanwhile. -/
private theorem inside_become (follows : (outline.site.inside tag).Follows here) (forms : List Form)
    (pushes pops : Nat) :
    let last := (outline.inside tag).become here forms pushes pops
    let around := outline.become { outline.site with
      statics := here.statics
      form := if tag.kind.isForm then outline.site.form else here.form } forms pushes (pops + 1)
    last.outer = around.top :: around.outer ∧
      ({ last with top := around.top, outer := around.outer, pops := last.pops + 1 } : Outline)
        = around ∧
      last.top.tree = here.closed tag ∧ last.top.node = (here.closed tag).tag := by
  have heads : here.form.map OpenForm.head
    = ((OpenForm.of? tag.head tag.kind).or outline.site.form).map OpenForm.head := follows
  intro last around
  cases isForm : tag.kind.isForm with
  | true =>
    obtain ⟨fieldIds, kind, same⟩ := OpenForm.of?_of_isForm tag.head isForm
    rw [same] at heads
    obtain ⟨form, given, head⟩ := Option.map_eq_some_iff.mp heads
    have last_eq : last = _ := become_of_isForm given isForm forms pushes pops
    have around_eq : around = _ := become_of_form (by rw [if_pos isForm]) forms pushes (pops + 1)
    rw [last_eq, around_eq]
    refine ⟨rfl, rfl, ?_, ?_⟩
    · simp [Frame.tree, Site.closed, given, isForm, inside, enter]
    · simp [Frame.node, Tree.tag, Site.closed, given, isForm, inside, enter]
  | false =>
    rw [OpenForm.of?_of_not_isForm _ isForm, Option.none_or] at heads
    cases given : here.form with
    | none =>
      have alone : outline.site.form = none := by simpa [given] using heads.symm
      have noForm : (outline.inside tag).site.form = none := by
        rw [site_inside, Site.inside, OpenForm.of?_of_not_isForm _ isForm, alone]
        rfl
      have last_eq : last = _ := become_of_form (given.trans noForm.symm) forms pushes pops
      have around_eq : around = _ :=
        become_of_form (by simp [isForm, given, alone]) forms pushes (pops + 1)
      rw [last_eq, around_eq]
      refine ⟨rfl, rfl, ?_, ?_⟩
      · simp [Frame.tree, Site.closed, isForm, inside, enter]
      · simp [Frame.node, Tree.tag, Site.closed, isForm, inside, enter]
    | some form =>
      -- The form is around the tag, either right around it or further out.
      have noForm : (outline.inside tag).top.kind.isForm = false := isForm
      have placed : (if tag.kind.isForm then outline.site.form else here.form) = some form := by
        simp [isForm, given]
      have last_eq : last = _ := become_of_not_isForm given noForm forms pushes pops
      have tops : last.top.tree = here.closed tag ∧ last.top.node = (here.closed tag).tag := by
        rw [last_eq]
        constructor
        · simp [Frame.tree, Site.closed, isForm, inside, enter]
        · simp [Frame.node, Tree.tag, Site.closed, isForm, inside, enter]
      cases top : outline.top.kind.isForm with
      | true =>
        have around_eq : around = _ := become_of_isForm placed top forms pushes (pops + 1)
        have outer : Frame.changeForm form.kind outline.frames
            = { outline.top with kind := form.kind } :: outline.outer := by
          simp [frames, Frame.changeForm, top]
        refine ⟨?_, ?_, tops⟩
        · rw [last_eq, around_eq]
          exact outer
        · rw [last_eq, around_eq]
          rfl
      | false =>
        have around_eq : around = _ := become_of_not_isForm placed top forms pushes (pops + 1)
        have outer : Frame.changeForm form.kind outline.frames
            = outline.top :: Frame.changeForm form.kind outline.outer := by
          simp [frames, Frame.changeForm, top]
        refine ⟨?_, ?_, tops⟩
        · rw [last_eq, around_eq]
          exact outer
        · rw [last_eq, around_eq]
          rfl

namespace Becomes

variable {occurrence : Occurrence}

/-- A tag that is closed leaves what has become of its inside. -/
theorem closeTag (active : outline.skip = 0)
    (within : (outline.inside tag).Becomes setting.config.messages last here)
    (done : last.closeTag setting occurrence = .ok next) :
    outline.Becomes setting.config.messages next
      (outline.site.behind setting.config.messages tag here) := by
  obtain ⟨follows, trees, forms, pushes, pops, added, formed, rfl⟩ := within
  obtain ⟨outer, popped, tree, node⟩ := inside_become follows forms pushes pops
  have skip : ((outline.inside tag).become here forms pushes pops).skip = 0 := by
    cases here.form <;> exact active
  rw [closeTag_cons setting occurrence outer] at done
  split at done
  · cases done
  · rw [if_pos (by simp [skip]), popped] at done
    -- What the tag leaves behind is known before it is drawn.
    have before : outline.site.Follows { outline.site with
        statics := here.statics
        form := if tag.kind.isForm then outline.site.form else here.form } := by
      have behind : outline.site.Follows (outline.site.behind setting.config.messages tag here) :=
        Site.follows_behind follows
      exact behind
    -- The trees below the tag are those that grew inside.
    have inner : ((outline.inside tag).become here forms pushes pops).top.inner = trees :=
      (congrArg Tree.inner tree).trans added
    have drawn := Becomes.draw before (inner ▸ formed) pushes (pops + 1) rfl done
    rw [tree, node] at drawn
    exact drawn

end Becomes

end

/-- Tags that are visited without an error are known. -/
theorem known_of_run {parts : List Part} (ran : parts.foldlM (visit setting) outline = .ok last) :
    ∀ part ∈ parts, setting.registry.containsTag part.tag.namespaceName part.tag.name := by
  induction parts generalizing outline with
  | nil => simp
  | cons part rest ih =>
    rw [List.foldlM_cons] at ran
    obtain ⟨middle, here, later⟩ := bind_eq_ok.mp ran
    obtain ⟨kind, known, -⟩ := visit_eq_ok here
    intro other member
    rcases List.mem_cons.mp member with rfl | behind
    · simp [Registry.containsTag, known]
    · exact ih later other behind

/-- A tag that is visited is opened at its place, behind the text before it. -/
theorem visit_opens {gap : List Char} {tag : Occurrence} (active : outline.skip = 0)
    (opens : tag.closing = false) (done : outline.visit setting ⟨gap, tag⟩ = .ok next) :
    ∃ node around opened, (outline.site.pushText gap).openTag setting tag = .ok (node, around) ∧
      outline.Becomes setting.config.messages opened around ∧
      opened.settle setting { head := node.head, kind := node.kind } tag.selfClosing
        (node.kind.passes? around.statics) = .ok next := by
  obtain ⟨kind, known, ⟨contrary, -⟩ | ⟨-, done⟩⟩ := visit_eq_ok done
  · simp [opens] at contrary
  · obtain ⟨node, around, placed, follows, settled⟩ :=
      openTag_site (show (outline.pushText gap).skip = 0 from active) known done
    have text := Becomes.pushText setting.config.messages outline gap
    obtain ⟨_, _, _, _, _, _, _, _, _, _, same⟩ := Site.openTag_eq_ok placed
    have opening : (outline.pushText gap).Becomes setting.config.messages
        ((outline.pushText gap).become around [] outline.pushes outline.pops) around :=
      ⟨follows, [], [], outline.pushes, outline.pops, by simp [same], .nil, rfl⟩
    exact ⟨node, around, _, placed, text.trans opening, settled⟩

end Outline

/-- Of a conditional that fails nothing is left but the counts. -/
theorem Forest.run_left_out {setting : Setting} {inner : Forest} {closing : Occurrence}
    {opened middle : Outline} {node : Node} (proper : inner.Proper)
    (closes : closing.closing = true ∧ closing.selfClosing = false)
    (named : node.head.namespaceName = closing.namespaceName ∧ node.head.name = closing.name)
    (ran : (inner.parts ++ [(⟨inner.tail, closing⟩ : Part)]).foldlM (Outline.visit setting)
      (opened.enter { head := node.head, kind := node.kind } (some false)) = .ok middle) :
    opened.Becomes setting.config.messages middle opened.site := by
  have known := Outline.known_of_run ran
  have fits := inner.matched proper
    (fun part member => known part (List.mem_append_left _ member)) []
  obtain ⟨kind, registered⟩ := Option.isSome_iff_exists.mp
    (known ⟨inner.tail, closing⟩ (List.mem_append_right _ (List.mem_singleton_self _)))
  let frame : Frame := { head := node.head, kind := node.kind }
  have left : ∃ pushes pops, (inner.parts ++ [(⟨inner.tail, closing⟩ : Part)]).foldlM
      (Outline.visit setting) (opened.enter frame (some false))
        = .ok { opened with pushes, pops } :=
    Outline.run_left_out fits registered closes.1 closes.2 named
  obtain ⟨pushes, pops, left⟩ := left
  cases ran.symm.trans left
  exact Outline.Becomes.counts _ opened pushes pops

/-- A tag leaves what nested tags have made of its inside. -/
theorem Forest.run_inside {setting : Setting} {inner : Forest} {closing : Occurrence}
    {opened middle : Outline} {node : Node} (active : opened.skip = 0)
    (closes : closing.closing = true)
    (grows : ∀ {last}, inner.parts.foldlM (Outline.visit setting) (opened.inside node) = .ok last →
      ∃ here, inner.grow setting (opened.inside node).site = .ok here ∧
        (opened.inside node).Becomes setting.config.messages (last.pushText inner.tail) here)
    (ran : (inner.parts ++ [(⟨inner.tail, closing⟩ : Part)]).foldlM (Outline.visit setting)
      (opened.inside node) = .ok middle) :
    ∃ here, inner.grow setting (opened.site.inside node) = .ok here ∧
      opened.Becomes setting.config.messages middle
        (opened.site.behind setting.config.messages node here) := by
  rw [List.foldlM_append] at ran
  obtain ⟨last, within, closed⟩ := bind_eq_ok.mp ran
  obtain ⟨here, grown, becomes⟩ := grows within
  rw [Outline.site_inside] at grown
  rw [List.foldlM_cons] at closed
  obtain ⟨next, closed, ⟨⟩⟩ := bind_eq_ok.mp closed
  obtain ⟨kind, -, ⟨-, -, closed⟩ | ⟨contrary, -⟩⟩ := Outline.visit_eq_ok closed
  · exact ⟨here, grown, Outline.Becomes.closeTag active becomes closed⟩
  · simp [closes] at contrary

/-- Nested tags that are visited make of an outline what they make of its place. -/
theorem Forest.run_grows {setting : Setting} {forest : Forest} (proper : forest.Proper)
    {outline last : Outline} (active : outline.skip = 0)
    (ran : forest.parts.foldlM (Outline.visit setting) outline = .ok last) :
    ∃ here, forest.grow setting outline.site = .ok here ∧
      outline.Becomes setting.config.messages (last.pushText forest.tail) here := by
  induction forest generalizing outline last with
  | text behind =>
    cases ran
    exact ⟨_, rfl, Outline.Becomes.pushText _ _ behind⟩
  | single gap tag rest ih =>
    obtain ⟨opens, self, properRest⟩ := proper
    rw [parts, List.foldlM_cons] at ran
    obtain ⟨middle, visited, ran⟩ := bind_eq_ok.mp ran
    obtain ⟨node, around, opened, placed, becomes, settled⟩ :=
      Outline.visit_opens active opens visited
    have active' : opened.skip = 0 := becomes.skip_eq.trans active
    have place := becomes.site_eq
    rw [self, Outline.settle_active setting active'] at settled
    rw [grow, placed]
    change ∃ here, (if around.leavesOut node then _ else _) = _ ∧ _
    rw [Site.leavesOut]
    -- A tag that ends at once is left out, or drawn where it stands.
    split at settled
    · next leftOut =>
      rw [if_pos leftOut]
      cases settled
      obtain ⟨here, grown, later⟩ := ih properRest active' ran
      exact ⟨here, place ▸ grown, becomes.trans later⟩
    · next goesOn =>
      rw [if_neg goesOn]
      have drawn := becomes.trans (Outline.Becomes.draw_at_once settled)
      obtain ⟨here, grown, later⟩ := ih properRest (drawn.skip_eq.trans active) ran
      rw [drawn.site_eq, place] at grown
      exact ⟨here, grown, drawn.trans later⟩
  | element gap opening inner closing rest ihInner ihRest =>
    obtain ⟨⟨opens, plain⟩, ⟨closes, plain'⟩, names, properInner, properRest⟩ := proper
    -- The run goes up to the tag, then through its inside and its end, then through what follows.
    have split := foldlM_around (Outline.visit setting) [] inner.parts rest.parts
      ⟨gap, opening⟩ ⟨inner.tail, closing⟩ outline
    change (element gap opening inner closing rest).parts.foldlM _ outline = _ at split
    rw [split] at ran
    obtain ⟨_, ⟨⟩, ran⟩ := bind_eq_ok.mp ran
    obtain ⟨base, visited, ran⟩ := bind_eq_ok.mp ran
    obtain ⟨middle, within, ranRest⟩ := bind_eq_ok.mp ran
    obtain ⟨node, around, opened, placed, becomes, settled⟩ :=
      Outline.visit_opens active opens visited
    have active' : opened.skip = 0 := becomes.skip_eq.trans active
    have place := becomes.site_eq
    rw [Outline.settle, plain] at settled
    rw [grow, placed]
    change ∃ here, (if around.leavesOut node then _ else _) = _ ∧ _
    rw [Site.leavesOut]
    cases passed : node.kind.passes? around.statics == some false with
    | true =>
      rw [if_pos rfl]
      -- A condition that fails leaves out everything up to the end of its tag.
      have fails : node.kind.passes? around.statics = some false := by simpa using passed
      have ref := Site.ref_of_openTag placed
      have named : node.head.namespaceName = closing.namespaceName ∧
          node.head.name = closing.name :=
        ⟨(congrArg TagRef.namespaceName ref).trans names.1,
          (congrArg TagRef.name ref).trans names.2⟩
      cases settled
      rw [fails] at within
      have gone := becomes.trans (Forest.run_left_out properInner ⟨closes, plain'⟩ named within)
      obtain ⟨here, grown, later⟩ := ihRest properRest (gone.skip_eq.trans active) ranRest
      rw [gone.site_eq, place] at grown
      exact ⟨here, grown, gone.trans later⟩
    | false =>
      rw [if_neg Bool.false_ne_true]
      cases settled
      -- The inside grows on its own, and the end of the tag puts it where the tag stands.
      rw [Outline.enter_eq_inside passed] at within
      have unskipped : (opened.inside node).skip = 0 := active'
      obtain ⟨inside, grownInner, closed⟩ :=
        Forest.run_inside active' closes (ihInner properInner unskipped) within
      have whole := becomes.trans closed
      obtain ⟨here, grown, later⟩ := ihRest properRest (whole.skip_eq.trans active) ranRest
      rw [whole.site_eq, place] at grown
      rw [place] at grownInner
      refine ⟨here, ?_, whole.trans later⟩
      rw [grownInner]
      exact grown

/-- What a template was compiled from: its tags are those of a proper forest, which has
grown to this, and the view is what the final pass makes of that. -/
structure Compiled.GrownFrom (setting : Setting) (text : String) (site : Site)
    (compiled : Compiled) : Prop where
  forest : ∃ forest : Forest, forest.Proper ∧
    forest.scan = Markup.scan setting.registry.namespaces text.toList ∧
    forest.grow setting {} = .ok site
  view : (setting.bindings site.statics).expand setting.source text site.body
    = .ok compiled.view.body
  statics : compiled.statics = site.statics

/-- The tags of a template are those of one forest only. -/
theorem Compiled.GrownFrom.grow_eq {setting : Setting} {text : String} {compiled : Compiled}
    {site : Site} (grown : compiled.GrownFrom setting text site) {forest : Forest}
    (proper : forest.Proper)
    (scanned : forest.scan = Markup.scan setting.registry.namespaces text.toList) :
    forest.grow setting {} = .ok site := by
  obtain ⟨other, proper', scanned', grows⟩ := grown.forest
  rwa [Forest.eq_of_scan proper proper' (scanned.trans scanned'.symm)]

/-- A template that compiles has grown from its tags, and so have its forms. -/
theorem compileTemplate_grows {setting : Setting} {text : String} {compiled : Compiled}
    (compiles : compileTemplate setting text = .ok compiled) :
    ∃ site, compiled.GrownFrom setting text site ∧
      Form.OfTrees setting.config.messages site.trees compiled.forms := by
  obtain ⟨⟨⟩, matched, -⟩ := (compile_agreeing setting text).of_ok compiles
  obtain ⟨forest, proper, scanned⟩ := Forest.exists_of_matched matched
  rw [compileTemplate_eq_outline, Outline.compile, ← scanned] at compiles
  obtain ⟨last, ran, finished⟩ := bind_eq_ok.mp compiles
  have active : (Outline.start setting).skip = 0 := rfl
  obtain ⟨site, grown, follows, trees, forms, pushes, pops, added, formed, becomes⟩ :=
    Forest.run_grows proper active ran
  -- No form is open around a template.
  have alone : site.form = none := Option.map_eq_none_iff.mp follows
  rw [Outline.become_of_form alone] at becomes
  change (last.pushText forest.tail).finish setting text = _ at finished
  rw [becomes, Outline.finish_nil setting text rfl, if_neg (by simp [active])] at finished
  obtain ⟨body, view, rfl⟩ := map_eq_ok.mp finished
  have same : site.trees = trees := added
  exact ⟨site, ⟨⟨forest, proper, scanned, grown⟩, view, rfl⟩, same ▸ formed⟩

end Stencil
