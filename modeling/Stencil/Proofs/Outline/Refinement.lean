import Stencil.Proofs.Outline.EnclosingForm

/-!
# Outlines tell what compiles do

A session and its outline take the same steps: both fail with the same error, or both
go on and stay session and outline. Compiling a text on its outlines is therefore the
same as compiling it (`compileTemplate_eq_outline`).
-/
namespace Stencil

/-- A session with this outline, for an arena and a stack to keep it in. -/
def Outline.session (outline : Outline) (arena : Arena) (stack : List NodeId) : Session where
  arena
  stack
  skip := outline.skip
  pushes := outline.pushes
  pops := outline.pops
  statics := outline.statics
  forms := outline.forms

/-- The invariant of a session and its outline. The skip counter counts the open tags
that leave out their contents. -/
def Outlined (session : Session) (outline : Outline) : Prop :=
  ∃ arena stack, session = outline.session arena stack ∧
    Standing arena stack outline.frames [] arena.size ∧
    outline.skip = outline.frames.countP (·.skipping)

section

variable {setting : Setting} {arena : Arena} {stack : List NodeId} {outline : Outline}
  {frames : List Frame} {frame : Frame} {id : NodeId}

private theorem adopted_eq_of_count {skip : Nat} (count : skip = frames.countP (·.skipping)) :
    adopted id frames = if skip == 0 then [id] else [] := by
  subst count
  by_cases active : frames.any (·.skipping)
  · have positive : frames.countP (·.skipping) ≠ 0 := by
      simpa [List.countP_eq_zero] using active
    simp [adopted, active, positive]
  · have zero : frames.countP (·.skipping) = 0 := by
      simpa [List.countP_eq_zero] using active
    simp [adopted, active, zero]

private theorem skipping_eq_false_of_count (count : 0 = (frame :: frames).countP (·.skipping)) :
    frame.skipping = false := by
  have none := List.countP_eq_zero.mp count.symm frame (by simp)
  simpa using none

private theorem TagKind.isConditional_of_passes? {statics : Statics} {kind : TagKind} {holds : Bool}
    (passes : kind.passes? statics = some holds) : kind.isConditional := by
  cases kind <;> first | rfl | cases passes

/-! ### Opening, leaving and drawing tags in an arena -/

/-- A tag that has just been opened in the innermost one. -/
def Session.fresh (stack : List NodeId) (head : Head) (kind : TagKind) : Node :=
  ⟨head, kind, some (stack.headD Session.rootId), [], [], false⟩

/-- The arena after a tag has been opened, as a child of the innermost one unless it is
left out. -/
def Session.grown (arena : Arena) (stack : List NodeId) (active : Bool) (node : Node) : Arena :=
  if active then (arena.push node).adopt (stack.headD Session.rootId) arena.size
  else arena.push node

theorem Session.size_grown (active : Bool) (node : Node) :
    (grown arena stack active node).size = arena.size + 1 := by
  cases active with
  | false => exact Arena.size_push _ _
  | true => exact (Arena.size_adopt _ _ _).trans (Arena.size_push _ _)

private theorem Standing.grown_found (standing : Standing arena stack frames [] arena.size)
    (active : Bool) (node : Node) :
    (Session.grown arena stack active node).node? arena.size = some node := by
  have here := Arena.node?_push_size arena node
  cases active with
  | false => exact here
  | true => exact (Arena.node?_update_of_lt standing.top_lt).trans here

/-- The tag that has just been opened stands behind all others. -/
theorem Standing.fresh_at (standing : Standing arena stack frames [] arena.size) (active : Bool)
    (head : Head) (kind : TagKind) :
    ({ head, kind } : Frame).At (Session.grown arena stack active (Session.fresh stack head kind))
      arena.size (some (stack.headD Session.rootId)) [] (arena.size + 1) :=
  ⟨[], standing.grown_found active _, .nil (Nat.le_refl _), by simp⟩

/-- The open tags stand as before, with one more child of the innermost one pending. -/
theorem Standing.grown {skip : Nat} (standing : Standing arena stack frames [] arena.size)
    (count : skip = frames.countP (·.skipping)) (node : Node) :
    Standing (Session.grown arena stack (skip == 0) node) stack frames
      (adopted arena.size frames) arena.size := by
  have kept : Standing (arena.push node) stack frames [] arena.size :=
    standing.congr fun id below => Arena.node?_push_of_lt below
  rw [adopted_eq_of_count count]
  cases active : skip == 0 with
  | false => exact kept
  | true =>
    have zero : skip = 0 := by simpa using active
    cases frames with
    | nil => cases kept
    | cons frame outer =>
      have top := skipping_eq_false_of_count (zero ▸ count)
      exact kept.replace (fun id below => Arena.node?_update_of_gt below) rfl
        fun parent here => here.adopt _ top

/-- A tag that is not drawn leaves no trace among the open ones: it is no child, or it
is a conditional with nothing in it. -/
theorem Standing.leave {hi : Nat} (standing : Standing arena stack frames (adopted id frames) id)
    (hidden : frames.any (·.skipping) = false →
      ∃ node, arena.node? id = some node ∧ node.kind.isConditional ∧ node.children = [])
    (bound : id < hi) : Standing arena stack frames [] hi := by
  cases frames with
  | nil => cases standing
  | cons frame outer =>
    refine standing.replace (fun _ _ => rfl) rfl ?_
    rintro parent ⟨ids, found, shows, conditional⟩
    cases skipped : (frame :: outer).any (·.skipping) with
    | true =>
      -- It is no child.
      rw [adopted, if_pos skipped] at found
      exact ⟨ids, found, shows.extend (Nat.le_of_lt bound), conditional⟩
    | false =>
      -- It is a child that shows nothing.
      obtain ⟨node, here, kind, childless⟩ := hidden skipped
      have last : Shows arena id [id] [] hi :=
        .hidden (Nat.le_refl _) here kind childless (.nil bound)
      have top : frame.skipping = false := by
        simp only [List.any_cons, Bool.or_eq_false_iff] at skipped
        exact skipped.1
      rw [adopted, if_neg (by simp [skipped])] at found
      exact ⟨ids ++ [id], by simpa using found, by simpa using shows.append last, by simp [top]⟩

/-- The fragment of a closed tag goes into the body of the tag around it. -/
def Session.drawn (arena : Arena) (stack : List NodeId) (fragment : Fragment) : Arena :=
  arena.update (stack.headD Session.rootId) fun outer =>
    { outer with body := Fragment.append outer.body fragment }

private theorem Session.size_drawn (fragment : Fragment) :
    (drawn arena stack fragment).size = arena.size :=
  Arena.size_update _ _ _

/-- A closed tag that was a child of the one around it becomes a tree in it. -/
theorem Standing.draw (standing : Standing arena stack (frame :: frames) [id] id)
    {closed : Frame} (here : closed.At arena id (some (stack.headD Session.rootId)) [] arena.size)
    (active : frame.skipping = false) (fragment : Fragment) :
    Standing (Session.drawn arena stack fragment) stack
      ({ frame with
          body := Fragment.append frame.body fragment
          inner := frame.inner ++ [closed.tree] } :: frames) [] arena.size := by
  have bound := standing.top_lt
  obtain ⟨closedIds, closedFound, closedShows, -⟩ := here
  refine standing.replace (fun _ below => Arena.node?_update_of_gt below) rfl ?_
  rintro parent ⟨ids, found, shows, -⟩
  refine ⟨ids ++ [id], ?_, ?_, by simp [active]⟩
  · rw [Session.drawn, Arena.node?_update_self, found]
    simp
  · have tree : Shows arena id [id] [closed.tree] arena.size := by
      have inner : Shows arena (id + 1) (closedIds ++ []) closed.inner arena.size := by
        rwa [List.append_nil]
      exact .tree (Nat.le_refl _) closedFound inner (.nil (Nat.le_refl _))
    exact (shows.append tree).congr fun other low _ => Arena.node?_update_of_lt low

variable (outline) in
/-- Drawing a closed tag. -/
theorem draw_related (setting : Setting) (standing : Standing arena stack outline.frames [id] id)
    {closed : Frame} (here : closed.At arena id (some (stack.headD Session.rootId)) [] arena.size)
    (active : outline.skip = 0) (count : outline.skip = outline.frames.countP (·.skipping)) :
    Related (· = ·) Outlined ((outline.session arena stack).draw setting id)
      (outline.draw setting closed) := by
  have top := skipping_eq_false_of_count (active ▸ count)
  have drawn := standing.draw here top (closed.node.render setting.config.messages)
  obtain ⟨ids, found, shows, -⟩ := here
  rw [List.append_nil] at found
  unfold Session.draw Outline.draw
  have node : (outline.session arena stack).node setting id = _ :=
    congrArg (Option.getD · setting.root) found
  rw [node]
  let kept : Node := ⟨closed.head, closed.kind, some (stack.headD Session.rootId), closed.body,
    ids, closed.skipping⟩
  -- The form is made of the nodes in the arena there, and of the trees here.
  have form : Related (· = ·) (· = ·) (kept.form? setting.config.messages arena)
      (closed.form? setting.config.messages) := by
    unfold Node.form? Frame.form?
    rw [Form.ofNode_eq_ofTrees shows]
    exact .refl (fun _ => rfl) (fun _ => rfl) _
  have fragment : kept.render setting.config.messages
      = closed.node.render setting.config.messages :=
    Node.render_alike _ ⟨Head.Alike.refl _, rfl, rfl⟩
  refine form.bind fun added _ equal => ?_
  subst equal
  refine .ok ⟨_, stack, ?_, (Session.size_drawn _).symm ▸ drawn, ?_⟩
  · rw [← fragment]
    rfl
  · simpa [Outline.frames, List.countP_cons] using count

/-! ### Steps side by side -/

private theorem initOpening_related (setting : Setting) {a b : Opening}
    (alike : Opening.Alike (· = ·) a b) :
    Related (· = ·) (Opening.Initialized (· = ·) a b)
      ((outline.session arena stack).initOpening setting a) (outline.initOpening setting b) := by
  change Related _ _ (if outline.active then a.init setting.config else .ok a)
    (if outline.active then b.init setting.config else .ok b)
  split
  · exact (Opening.init_alike setting.config alike).mono (fun _ _ => ContentErrors.eq) fun _ _ => id
  · exact .ok alike.initialized

/-- A tag that has been opened becomes the innermost one. -/
theorem enter_outlined (standing : Standing arena stack outline.frames [] arena.size)
    (count : outline.skip = outline.frames.countP (·.skipping)) (head : Head) (kind : TagKind)
    {passed : Option Bool} (conditional : passed = some false → kind.isConditional) :
    Outlined
      ((outline.session (Session.grown arena stack outline.active (Session.fresh stack head kind))
        stack).enter arena.size passed)
      (outline.enter { head, kind } passed) := by
  have around : Standing _ stack outline.frames (adopted arena.size outline.frames) arena.size :=
    standing.grown count (Session.fresh stack head kind)
  have here := standing.fresh_at outline.active head kind
  rw [← Session.size_grown outline.active (Session.fresh stack head kind)] at here
  cases failed : passed == some false with
  | false =>
    have goesOn : passed ≠ some false := by simpa using failed
    simp only [Session.enter, goesOn, Outline.enter, failed]
    refine ⟨_, arena.size :: stack, rfl, .inside here around, ?_⟩
    simpa [Outline.frames, List.countP_cons] using count
  | true =>
    -- The node is marked, which no other one around it notices.
    have stops : passed = some false := by simpa using failed
    have found := standing.grown_found outline.active (Session.fresh stack head kind)
    have kept := around.congr fun id below => Arena.node?_update_of_gt
      (f := fun node => { node with skipping := true }) below
    simp only [Session.enter, stops, Outline.enter]
    refine ⟨_, arena.size :: stack, rfl, .inside ⟨[], ?_, .nil ?_, fun _ => ?_⟩ kept, ?_⟩
    · exact Arena.node?_update_self.trans (congrArg _ found)
    · simp [Outline.session, Session.size_grown]
    · exact ⟨conditional stops, rfl⟩
    · simpa [Outline.frames, List.countP_cons] using count

variable (outline) in
/-- What becomes of a tag that has been opened. -/
theorem settle_related (setting : Setting)
    (standing : Standing arena stack outline.frames [] arena.size)
    (count : outline.skip = outline.frames.countP (·.skipping)) (head : Head) (kind : TagKind)
    (selfClosing : Bool) {passed : Option Bool}
    (conditional : passed = some false → kind.isConditional) :
    let session := outline.session
      (Session.grown arena stack outline.active (Session.fresh stack head kind)) stack
    Related (· = ·) Outlined
      (if !selfClosing then .ok (session.enter arena.size passed)
        else if session.active && passed != some false then session.draw setting arena.size
        else .ok session)
      (outline.settle setting { head, kind } selfClosing passed) := by
  intro session
  have around := standing.grown count (Session.fresh stack head kind)
  have here := standing.fresh_at outline.active head kind
  rw [← Session.size_grown outline.active (Session.fresh stack head kind)] at here
  cases selfClosing with
  | false => exact .ok (enter_outlined standing count head kind conditional)
  | true =>
    change Related _ _ (if outline.active && passed != some false then _ else _)
      (if outline.active && passed != some false then _ else _)
    cases drawn : outline.active && passed != some false with
    | true =>
      -- A tag that is drawn at once is a child of the innermost one.
      have active : outline.skip = 0 := by
        simpa [Outline.active] using (Bool.and_eq_true_iff.mp drawn).1
      have child : adopted arena.size outline.frames = [arena.size] := by
        rw [adopted_eq_of_count count, active]
        rfl
      rw [child] at around
      exact draw_related outline setting around here active count
    | false =>
      -- Otherwise it is left behind in the arena.
      refine .ok ⟨_, stack, rfl, ?_, count⟩
      refine around.leave (fun unskipped => ⟨_, standing.grown_found outline.active _, ?_, rfl⟩) ?_
      · have active : outline.active := by
          simpa [Outline.active, count, List.countP_eq_zero] using unskipped
        refine conditional ?_
        simpa [active] using drawn
      · exact Nat.lt_of_lt_of_eq (Nat.lt_succ_self _) (Session.size_grown _ _).symm

theorem openTag_related (setting : Setting)
    (standing : Standing arena stack outline.frames [] arena.size)
    (count : outline.skip = outline.frames.countP (·.skipping)) (tag : Markup.Occurrence)
    (kind : TagKind) :
    Related (· = ·) Outlined ((outline.session arena stack).openTag setting tag kind)
      (outline.openTag setting tag kind) := by
  unfold Session.openTag Outline.openTag
  have same : Related (· = ·) (· = ·) ((outline.session arena stack).attributes setting tag)
      (setting.attributesOf outline.statics outline.active tag) :=
    .refl (fun _ => rfl) (fun _ => rfl) _
  refine same.bind fun attributes _ equal => ?_
  subst equal
  refine (initOpening_related setting standing.opening_alike).bind fun left right done => ?_
  obtain ⟨standing', size⟩ := standing.initialized done
  rw [← size] at standing'
  have count' : (outline.opened right).skip
      = (outline.opened right).frames.countP (·.skipping) :=
    count.trans (outline.countP_skipping_changeForm _).symm
  have conditional : (right.kind.passes? right.statics).map (outline.active && ·) = some false →
      right.kind.isConditional := by
    intro failed
    obtain ⟨holds, passes, -⟩ := Option.map_eq_some_iff.mp failed
    exact TagKind.isConditional_of_passes? passes
  have settled := settle_related (outline.opened right) setting standing' count'
    right.head right.kind tag.selfClosing conditional
  -- What is left to compare is the same tag with the same attributes on both sides.
  simp only [done.kind, done.statics, done.head.eq]
  exact settled

/-- What closing the innermost tag does. -/
theorem Session.closeTag_cons (setting : Setting) (session : Session) (tag : Markup.Occurrence)
    (top : session.stack = id :: stack) :
    session.closeTag setting tag =
      if (session.node setting id).head.namespaceName ≠ tag.namespaceName ∨
          (session.node setting id).head.name ≠ tag.name then
        .error (.mismatchedClosingTag (session.node setting id).head.ref (setting.ref tag))
      else if session.skip == 0 then
        ({ session with stack, pops := session.pops + 1 } : Session).draw setting id
      else .ok { session with
        stack
        pops := session.pops + 1
        skip := session.skip - (session.node setting id).skipping.toNat } := by
  unfold Session.closeTag
  rw [top]
  dsimp only
  split
  · rfl
  · cases (session.node setting id).skipping <;> rfl

theorem closeTag_related (setting : Setting)
    (standing : Standing arena stack outline.frames [] arena.size)
    (count : outline.skip = outline.frames.countP (·.skipping)) (tag : Markup.Occurrence) :
    Related (· = ·) Outlined ((outline.session arena stack).closeTag setting tag)
      (outline.closeTag setting tag) := by
  obtain ⟨top, outer, skip, pushes, pops, statics, forms⟩ := outline
  cases standing with
  | root _ here => exact .error rfl
  | @inside id stack _ _ _ _ here around =>
    cases outer with
    | nil => cases around
    | cons parent outer =>
      have closed := here
      obtain ⟨ids, found, -, conditional⟩ := closed
      rw [Session.closeTag_cons setting _ tag rfl, Outline.closeTag_cons setting tag rfl,
        Session.node, Outline.session, found, Option.getD_some]
      have split_count : skip = top.skipping.toNat + (parent :: outer).countP (·.skipping) := by
        rw [show skip = _ from count, Outline.frames, Frame.countP_skipping_cons, Nat.add_comm]
      by_cases mismatch : top.head.namespaceName ≠ tag.namespaceName ∨ top.head.name ≠ tag.name
      · simp only [if_pos mismatch]
        exact .error rfl
      · simp only [if_neg mismatch]
        cases active : skip == 0 with
        | true =>
          have zero : skip = 0 := by simpa using active
          have count' : 0 = (parent :: outer).countP (·.skipping) := by omega
          rw [adopted_eq_of_count count'] at around
          exact draw_related ⟨parent, outer, skip, pushes, pops + 1, statics, forms⟩ setting
            around here zero (zero.trans count')
        | false =>
          have left : skip ≠ 0 := by simpa using active
          refine .ok ⟨arena, stack, rfl, around.leave (fun unskipped => ?_) here.lt, ?_⟩
          · -- Nothing around the tag is left out, so it is the conditional that leaves out.
            have rest : (parent :: outer).countP (·.skipping) = 0 := by
              simpa [List.countP_eq_zero] using unskipped
            have skipping : top.skipping := by
              cases skipping : top.skipping with
              | true => rfl
              | false => simp [skipping, rest] at split_count; omega
            obtain ⟨kind, childless⟩ := conditional skipping
            exact ⟨_, found, kind, by simp [childless]⟩
          · change skip - top.skipping.toNat = (parent :: outer).countP (·.skipping)
            omega

private theorem pushText_outlined
    (standing : Standing arena stack outline.frames [] arena.size)
    (count : outline.skip = outline.frames.countP (·.skipping)) (text : List Char) :
    Outlined ((outline.session arena stack).pushText text) (outline.pushText text) := by
  refine ⟨_, stack, rfl, ?_, ?_⟩
  · rw [Outline.session, Session.top, Arena.size_update]
    refine standing.replace (fun _ below => Arena.node?_update_of_gt below) rfl ?_
    rintro parent ⟨ids, found, shows, conditional⟩
    refine ⟨ids, ?_, ?_, conditional⟩
    · rw [Arena.node?_update_self, found]
      rfl
    · exact shows.congr fun other low _ => Arena.node?_update_of_lt low
  · simpa [Outline.frames, Outline.pushText, List.countP_cons] using count

end

section

variable {setting : Setting} {session : Session} {outline : Outline}

theorem Outlined.pushText (outlined : Outlined session outline) (text : List Char) :
    Outlined (session.pushText text) (outline.pushText text) := by
  obtain ⟨arena, stack, rfl, standing, count⟩ := outlined
  exact pushText_outlined standing count text

theorem outlined_start (setting : Setting) :
    Outlined (Session.start setting) (Outline.start setting) := by
  refine ⟨_, [], rfl, .root rfl ⟨[], rfl, .nil (Nat.le_refl _), ?_⟩, rfl⟩
  rintro ⟨⟩

private theorem visit_related (setting : Setting) (outlined : Outlined session outline)
    (part : Markup.Part) :
    Related (· = ·) Outlined (session.visit setting part) (outline.visit setting part) := by
  unfold Session.visit Outline.visit
  dsimp only
  split
  · exact .error rfl
  · cases setting.registry.tag? part.tag.namespaceName part.tag.name with
    | none => exact .error rfl
    | some kind =>
      obtain ⟨arena, stack, same, standing, count⟩ := outlined.pushText part.gap
      dsimp only
      rw [same]
      split
      · exact closeTag_related setting standing count part.tag
      · exact openTag_related setting standing count part.tag kind

/-- Sessions and outlines stay side by side over any number of tags. -/
theorem run_related (setting : Setting) (outlined : Outlined session outline)
    (parts : List Markup.Part) :
    Related (· = ·) Outlined (parts.foldlM (Session.visit setting) session)
      (parts.foldlM (Outline.visit setting) outline) := by
  refine Related.foldlM (T := (· = ·)) (fun _ _ part _ outlined same => ?_)
    (List.forall₂_same.mpr fun _ _ => rfl) outlined
  subst same
  exact visit_related setting outlined part

theorem Outlined.finish (outlined : Outlined session outline) (setting : Setting)
    (text : String) : session.finish setting text = outline.finish setting text := by
  obtain ⟨arena, stack, rfl, standing, -⟩ := outlined
  obtain ⟨top, outer, skip, pushes, pops, statics, forms⟩ := outline
  cases standing with
  | root _ here =>
    -- All tags are closed.
    obtain ⟨ids, found, -⟩ := here
    simp only [Session.finish, Outline.finish, Outline.session, Session.node, found]
    rfl
  | inside here around =>
    -- A tag is still open.
    obtain ⟨ids, found, -⟩ := here
    cases outer with
    | nil => cases around
    | cons parent outer =>
      simp only [Session.finish, Outline.finish, Outline.session, Session.node, found]
      rfl

/-- Compiling a text on outlines is compiling it. -/
theorem compileTemplate_eq_outline (setting : Setting) (text : String) :
    compileTemplate setting text = Outline.compile setting text := by
  refine Related.eq ((run_related setting (outlined_start setting) _).bind fun session outline
    outlined => ?_)
  rw [(outlined.pushText _).finish]
  exact .refl (fun _ => rfl) (fun _ => rfl) _

end

end Stencil
