import Stencil.Proofs.Outline.Standing

/-!
# The form around an open tag

The form found by walking up the arena is the innermost open one. A tag is therefore
initialized in an arena as it is next to its outline, and the arena changes as the
outline does.
-/
namespace Stencil

namespace Frame

theorem changeForm_self {frames : List Frame} {form : Frame}
    (found : frames.find? (·.kind.isForm) = some form) : changeForm form.kind frames = frames := by
  induction frames with
  | nil => simp at found
  | cons frame outer ih =>
    cases here : frame.kind.isForm with
    | true =>
      obtain rfl : frame = form := by simpa [List.find?_cons, here] using found
      simp [changeForm, here]
    | false =>
      have later : outer.find? (·.kind.isForm) = some form := by
        simpa [List.find?_cons, here] using found
      simp [changeForm, here, ih later]

/-- Of an open tag a change of forms may change the kind only. -/
theorem map_changeForm {α : Type} (f : Frame → α)
    (kept : ∀ (frame : Frame) (kind : TagKind), f { frame with kind } = f frame) (kind : TagKind)
    (frames : List Frame) : (changeForm kind frames).map f = frames.map f := by
  induction frames with
  | nil => rfl
  | cons frame outer ih =>
    rw [changeForm]
    split
    · rw [List.map_cons, List.map_cons, kept]
    · rw [List.map_cons, List.map_cons, ih]

private theorem map_skipping_changeForm (kind : TagKind) (frames : List Frame) :
    (changeForm kind frames).map (·.skipping) = frames.map (·.skipping) :=
  map_changeForm (·.skipping) (fun _ _ => rfl) kind frames

private theorem any_skipping_changeForm (kind : TagKind) (frames : List Frame) :
    (changeForm kind frames).any (·.skipping) = frames.any (·.skipping) := by
  have same := congrArg (List.any · id) (map_skipping_changeForm kind frames)
  simpa only [List.any_map, Function.id_comp] using same

theorem countP_skipping_changeForm (kind : TagKind) (frames : List Frame) :
    (changeForm kind frames).countP (·.skipping) = frames.countP (·.skipping) := by
  have same := congrArg (List.countP id) (map_skipping_changeForm kind frames)
  simpa only [List.countP_map, Function.id_comp] using same

end Frame

private theorem TagKind.isConditional_of_isForm {kind : TagKind} (form : kind.isForm) :
    kind.isConditional = false := by
  cases kind <;> first | rfl | cases form

/-- A form that gets another kind. -/
theorem Frame.At.changeKind {arena : Arena} {id : NodeId} {parent : Option NodeId}
    {pending : List NodeId} {hi : Nat} {frame : Frame} (here : frame.At arena id parent pending hi)
    (form : frame.kind.isForm) (kind : TagKind) :
    ({ frame with kind } : Frame).At (arena.update id fun node => { node with kind }) id parent
      pending hi := by
  -- Only conditionals leave something out, and a form is none.
  have active : frame.skipping = false := by
    obtain ⟨ids, -, -, conditional⟩ := here
    by_contra left
    have contradiction := (conditional (by simpa using left)).1
    simp [TagKind.isConditional_of_isForm form] at contradiction
  exact here.update (fun _ => rfl) rfl (by simp [active])

namespace Standing

variable {arena : Arena} {stack : List NodeId} {frames : List Frame} {pending : List NodeId}
  {hi : Nat}

/-- The tags around the innermost one are those on the stack. -/
theorem selfAndAncestors (standing : Standing arena stack frames pending hi) :
    arena.selfAndAncestors (stack.headD Session.rootId) = stack ++ [Session.rootId] := by
  induction standing with
  | root _ here =>
    obtain ⟨node, found, -, -, parent⟩ := here.found
    rw [List.headD_nil, Arena.selfAndAncestors]
    simp [Arena.parent?, found, parent]
  | inside here around ih =>
    obtain ⟨node, found, -, -, parent⟩ := here.found
    rw [List.headD_cons, Arena.selfAndAncestors]
    simp only [Arena.parent?, found, Option.bind_some, parent]
    rw [if_pos around.top_lt, ih, List.cons_append]

/-- Looking for a tag around the current place is looking through the stack. -/
private theorem findAncestor?_eq (standing : Standing arena stack frames pending hi)
    (p : Node → Bool) : arena.findAncestor? (some (stack.headD Session.rootId)) p
      = (stack ++ [Session.rootId]).find? fun id => (arena.node? id).any p := by
  rw [Arena.findAncestor?, Arena.ancestors, standing.selfAndAncestors]

end Standing

/-- The innermost open form, found in the arena under a number on the stack. When it gets
another kind, that is seen in the outline and nowhere else. -/
structure FormAt (arena : Arena) (stack : List NodeId) (frames : List Frame)
    (pending : List NodeId) (hi : Nat) (form : Frame) (id : NodeId) (node : Node) : Prop where
  first : (stack ++ [Session.rootId]).find? (fun id => (arena.node? id).any (·.kind.isForm))
    = some id
  found : arena.node? id = some node
  listed : frames.find? (·.kind.isForm) = some form
  head : node.head = form.head
  kind : node.kind = form.kind
  bound : id ≤ stack.headD Session.rootId
  change : ∀ kind, Standing (arena.update id fun node => { node with kind }) stack
    (Frame.changeForm kind frames) pending hi

namespace Standing

variable {arena : Arena} {stack : List NodeId} {frames outer : List Frame} {frame : Frame}
  {pending : List NodeId} {hi : Nat}

/-- The innermost open tag is a form. -/
theorem formAt_top (standing : Standing arena stack (frame :: outer) pending hi)
    (form : frame.kind.isForm = true) :
    ∃ id node, FormAt arena stack (frame :: outer) pending hi frame id node := by
  have listed : (frame :: outer).find? (·.kind.isForm) = some frame := by simp [form]
  cases standing with
  | root active here =>
    obtain ⟨node, found, head, kind, -⟩ := here.found
    refine ⟨Session.rootId, node, by simp [found, kind, form], found, listed, head, kind,
      Nat.le_refl _, fun kind => ?_⟩
    rw [Frame.changeForm, if_pos form]
    exact .root active (here.changeKind form kind)
  | @inside id _ _ _ _ _ here around =>
    obtain ⟨node, found, head, kind, -⟩ := here.found
    refine ⟨id, node, by simp [found, kind, form], found, listed, head, kind, Nat.le_refl _,
      fun kind => ?_⟩
    rw [Frame.changeForm, if_pos form]
    -- What is around the form has smaller numbers than the form.
    exact .inside (here.changeKind form kind)
      (around.congr fun other below => Arena.node?_update_of_gt below)

end Standing

/-- The form around the innermost open tag, if that is none itself. -/
theorem FormAt.inside {arena : Arena} {stack : List NodeId} {frame form : Frame}
    {outer : List Frame} {pending : List NodeId} {hi : Nat} {id formId : NodeId} {node : Node}
    (formAt : FormAt arena stack outer (adopted id outer) id form formId node)
    (here : frame.At arena id (some (stack.headD Session.rootId)) pending hi)
    (top : stack.headD Session.rootId < id) (noForm : frame.kind.isForm = false) :
    FormAt arena (id :: stack) (frame :: outer) pending hi form formId node := by
  obtain ⟨first, found, listed, head, kind, bound, change⟩ := formAt
  have before : formId < id := Nat.lt_of_le_of_lt bound top
  refine ⟨?_, found, ?_, head, kind, Nat.le_of_lt before, fun kind => ?_⟩
  · obtain ⟨top, foundTop, -, sameKind, -⟩ := here.found
    simpa [foundTop, sameKind, noForm] using first
  · simpa [noForm] using listed
  · rw [Frame.changeForm, if_neg (by simp [noForm])]
    refine .inside (here.congr fun other above _ => ?_) ?_
    · exact Arena.node?_update_of_lt (Nat.lt_of_lt_of_le before above)
    · rw [adopted, Frame.any_skipping_changeForm]
      exact change kind

namespace Standing

variable {arena : Arena} {stack : List NodeId} {frames : List Frame} {pending : List NodeId}
  {hi : Nat}

/-- The arena and the outline either both have no open form or have the same one. -/
theorem form? (standing : Standing arena stack frames pending hi) :
    ((stack ++ [Session.rootId]).find? (fun id => (arena.node? id).any (·.kind.isForm)) = none ∧
      frames.find? (·.kind.isForm) = none) ∨
    ∃ form id node, FormAt arena stack frames pending hi form id node := by
  induction standing with
  | @root frame pending hi active here =>
    cases form : frame.kind.isForm with
    | true => exact .inr ⟨frame, (Standing.root active here).formAt_top form⟩
    | false =>
      obtain ⟨node, found, -, kind, -⟩ := here.found
      exact .inl (by simp [found, kind, form])
  | @inside id stack frame outer pending hi here around ih =>
    cases form : frame.kind.isForm with
    | true => exact .inr ⟨frame, (Standing.inside here around).formAt_top form⟩
    | false =>
      rcases ih with ⟨absent, unlisted⟩ | ⟨outerForm, formId, node, formAt⟩
      · obtain ⟨node, found, -, kind, -⟩ := here.found
        refine .inl ⟨?_, ?_⟩
        · simpa [found, kind, form] using absent
        · simpa [form] using unlisted
      · exact .inr ⟨outerForm, formId, node, formAt.inside here around.top_lt form⟩

end Standing

namespace Outline

/-- An opening is given the innermost open form. -/
theorem form?_opening (outline : Outline) (head : Head) (kind : TagKind) :
    (outline.opening head kind).form? = outline.form?.map fun form => (0, form.node) := by
  cases found : outline.form? with
  | none => simp [Opening.form?, opening, Arena.findAncestor?, Arena.ancestors,
      Arena.selfAndAncestors, Arena.parent?, Arena.node?, found]
  | some form =>
    have isForm : form.kind.isForm := by simpa using List.find?_some found
    simp [Opening.form?, opening, Arena.findAncestor?, Arena.ancestors, Arena.selfAndAncestors,
      Arena.parent?, Arena.node?, found, isForm, Frame.node]

/-- The kind of the form an opening was given, after a change to it. -/
theorem kind_withForm_opening (outline : Outline) (head : Head) (kind : TagKind)
    (change : Option TagKind) :
    (((outline.opening head kind).withForm change).node? 0).map Node.kind
      = outline.form?.map fun form => change.getD form.kind := by
  have given := outline.form?_opening head kind
  cases around : outline.form? with
  | none =>
    rw [around, Option.map_none] at given
    rw [Opening.withForm_of_none given, Outline.opening, around]
    rfl
  | some form =>
    rw [around, Option.map_some] at given
    cases change with
    | none =>
      rw [Opening.withForm, Outline.opening, around]
      rfl
    | some newKind =>
      rw [Opening.withForm_of_some given, Arena.node?_update_self, Outline.opening, around]
      rfl

theorem frames_changeForm (outline : Outline) (kind : TagKind) :
    (outline.changeForm (some kind)).frames = Frame.changeForm kind outline.frames := by
  change (Frame.changeForm kind outline.frames).headD outline.top
    :: (Frame.changeForm kind outline.frames).tail = _
  rw [frames, Frame.changeForm]
  split <;> rfl

theorem countP_skipping_changeForm (outline : Outline) (change : Option TagKind) :
    (outline.changeForm change).frames.countP (·.skipping)
      = outline.frames.countP (·.skipping) := by
  cases change with
  | none => rfl
  | some kind => rw [frames_changeForm, Frame.countP_skipping_changeForm]

end Outline

namespace Standing

variable {arena : Arena} {stack : List NodeId} {outline : Outline} {pending : List NodeId}
  {hi : Nat} {head : Head} {kind : TagKind}

/-- What an opening in the arena and one next to the outline are given is the same. -/
theorem opening_alike (standing : Standing arena stack outline.frames pending hi) :
    Opening.Alike (· = ·) ⟨head, kind, stack.headD Session.rootId, arena, outline.statics⟩
      (outline.opening head kind) := by
  refine ⟨.refl head, rfl, rfl, ?_⟩
  rw [Outline.form?_opening, Outline.form?, Opening.form?, standing.findAncestor?_eq]
  rcases standing.form? with ⟨absent, unlisted⟩ |
    ⟨form, id, node, first, found, listed, head, kind, -, -⟩
  · rw [absent, unlisted]
    exact .none
  · rw [first, listed, Option.bind_some, found]
    refine .some ⟨?_, kind⟩
    rw [head]
    exact .refl _

/-- Initialization changes the arena as it changes the outline. -/
theorem initialized (standing : Standing arena stack outline.frames pending hi) {a b : Opening}
    (done : Opening.Initialized (· = ·)
      ⟨head, kind, stack.headD Session.rootId, arena, outline.statics⟩
      (outline.opening head kind) a b) :
    Standing a.arena stack (outline.changeForm ((b.arena.node? 0).map Node.kind)).frames pending hi
      ∧ a.arena.size = arena.size := by
  obtain ⟨change, left, right⟩ := done.forms
  rw [right, Outline.kind_withForm_opening]
  rcases standing.form? with ⟨absent, unlisted⟩ |
    ⟨form, id, node, first, found, listed, -, -, -, changed⟩
  · -- No form is open, so there is nothing to change.
    have alone : outline.form? = none := unlisted
    have same : a.arena = arena := by
      refine left.trans (Opening.withForm_of_none ?_ change)
      rw [Opening.form?, standing.findAncestor?_eq, absent, Option.bind_none]
    rw [alone, same]
    exact ⟨standing, rfl⟩
  · have around : outline.form? = some form := listed
    rw [around, Option.map_some, Outline.frames_changeForm]
    cases change with
    | none =>
      -- The form gets the kind it has.
      have same : a.arena = arena := left
      rw [same, Option.getD_none, Frame.changeForm_self listed]
      exact ⟨standing, rfl⟩
    | some newKind =>
      have inForm : Opening.form? ⟨head, kind, stack.headD Session.rootId, arena,
          outline.statics⟩ = some (id, node) := by
        rw [Opening.form?, standing.findAncestor?_eq, first, Option.bind_some, found,
          Option.map_some]
      have updated : a.arena = arena.update id fun node => { node with kind := newKind } :=
        left.trans (Opening.withForm_of_some inForm newKind)
      rw [updated, Option.getD_some]
      exact ⟨changed newKind, Arena.size_update _ _ _⟩

end Standing

end Stencil
