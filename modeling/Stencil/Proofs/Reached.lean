import Mathlib.Data.List.Chain
import Mathlib.Logic.Relation
import Stencil.Proofs.Links
import Stencil.Proofs.Outline.Places
import Stencil.Proofs.Outline.Refinement
import Stencil.Proofs.Placeholder

/-!
# The states of a compile

Whatever texts and tags a compile has taken in, its open tags are on the stack, each in
the one below it; the skip counter counts those among them that leave out what is in
them; and what was opened while the counter was not zero is linked to by no other tag.
A template whose tags are all closed therefore ends with a counter of zero.
-/
namespace Stencil

open Markup (Occurrence)

namespace Session

/-- A compile takes in a text, an opening tag or a closing tag. -/
inductive Step (setting : Setting) : Session → Session → Prop where
  | text (session : Session) (text : List Char) : Step setting session (session.pushText text)
  | opened {session next : Session} {tag : Occurrence} {kind : TagKind} :
      setting.registry.tag? tag.namespaceName tag.name = some kind →
      session.openTag setting tag kind = .ok next → Step setting session next
  | closed {session next : Session} {tag : Occurrence} :
      session.closeTag setting tag = .ok next → Step setting session next

/-- Any number of steps. -/
abbrev Reaches (setting : Setting) : Session → Session → Prop :=
  Relation.ReflTransGen (Step setting)

/-- The open tags, the innermost first, with the root below all others. -/
def path (session : Session) : List NodeId := session.stack ++ [rootId]

/-- What holds of all states of a compile. -/
structure Sound (session : Session) : Prop where
  /-- Every open tag is in the one below it. -/
  chained : session.path.IsChain fun id below => session.arena.parent? id = some below
  counted : session.skip
    = session.path.countP fun id => (session.arena.node? id).any (·.skipping)
  idle : session.stack = [] → session.skip = 0
  linked : session.arena.Linked
  disjoint : ∀ id other, ∀ child ∈ session.arena.childrenOf id,
    child ∈ session.arena.childrenOf other → id = other

end Session

section

variable {arena : Arena} {stack : List NodeId} {frames : List Frame} {pending : List NodeId}
  {hi : Nat}

private theorem Standing.chained (standing : Standing arena stack frames pending hi) :
    (stack ++ [Session.rootId]).IsChain fun id below => arena.parent? id = some below := by
  induction standing with
  | root => exact .singleton _
  | @inside id stack frame outer pending hi here around ih =>
    obtain ⟨node, found, -, -, parent⟩ := here.found
    have named : arena.parent? id = some (stack.headD Session.rootId) := by
      rw [Arena.parent?, found, Option.bind_some, parent]
    cases stack with
    | nil => exact .cons_cons named ih
    | cons below stack => exact .cons_cons named ih

theorem Standing.counted (standing : Standing arena stack frames pending hi) :
    (stack ++ [Session.rootId]).countP (fun id => (arena.node? id).any (·.skipping))
      = frames.countP (·.skipping) := by
  have marked {id : NodeId} {parent : Option NodeId} {frame : Frame} {pending : List NodeId}
      {hi : Nat} (here : frame.At arena id parent pending hi) :
      (arena.node? id).any (·.skipping) = frame.skipping := by
    obtain ⟨ids, found, -⟩ := here
    rw [found]
    rfl
  induction standing with
  | root _ here => rw [List.nil_append, List.countP_singleton, List.countP_singleton, marked here]
  | inside here _ ih => rw [List.cons_append, List.countP_cons, List.countP_cons, ih, marked here]

end

/-! ### What steps do to the links -/

/-- Initialization leaves the links alone. -/
theorem Opening.sameLinks_init {config : Config} {a b : Opening} (done : a.init config = .ok b) :
    b.arena.SameLinks a.arena := by
  -- Set beside itself, an opening is left with an arena in which a kind has changed.
  have same : Opening.Alike (· = ·) a a := by
    refine ⟨.refl _, rfl, rfl, ?_⟩
    cases a.form? with
    | none => exact .none
    | some form => exact .some ⟨.refl _, rfl⟩
  obtain ⟨b', done', initialized⟩ := (init_alike config same).exists_of_ok done
  obtain ⟨change, changed, -⟩ := initialized.forms
  rw [changed]
  exact Arena.sameLinks_withForm a change

namespace Session

variable {setting : Setting} {session next : Session} {tag : Occurrence}

private theorem sameLinks_pushText (session : Session) (text : List Char) :
    (session.pushText text).arena.SameLinks session.arena :=
  Arena.sameLinks_update _ _ fun _ => ⟨rfl, rfl⟩

private theorem sameLinks_enter (session : Session) (id : NodeId) (passed : Option Bool) :
    (session.enter id passed).arena.SameLinks session.arena := by
  unfold enter
  split
  · exact Arena.sameLinks_update _ _ fun _ => ⟨rfl, rfl⟩
  · exact .refl _

private theorem skip_enter_le (session : Session) (id : NodeId) (passed : Option Bool) :
    (session.enter id passed).skip ≤ session.skip + 1 := by
  unfold enter
  split
  · exact Nat.le_refl _
  · exact Nat.le_succ _

/-- Drawing a tag changes the body of the tag around it and the forms only. -/
theorem draw_eq_ok {id : NodeId} (done : session.draw setting id = .ok next) :
    next.arena.SameLinks session.arena ∧ next.skip = session.skip := by
  obtain ⟨form, -, done⟩ := bind_eq_ok.mp done
  cases done
  refine ⟨?_, rfl⟩
  split
  · exact Arena.sameLinks_update _ _ fun _ => ⟨rfl, rfl⟩
  · exact .refl _

/-- Of the links, an opening tag changes only its own. -/
theorem openTag_eq_ok {kind : TagKind} (done : session.openTag setting tag kind = .ok next) :
    ∃ arena node, arena.SameLinks session.arena ∧ node.parent = some session.top ∧
      node.children = [] ∧
      next.arena.SameLinks (grown arena session.stack session.active node) ∧
      next.skip ≤ session.skip + 1 := by
  obtain ⟨attributes, -, done⟩ := bind_eq_ok.mp done
  obtain ⟨opening, initialized, done⟩ := bind_eq_ok.mp done
  have same : opening.arena.SameLinks session.arena := by
    unfold initOpening at initialized
    split at initialized
    · exact Opening.sameLinks_init initialized
    · cases initialized
      exact .refl _
  refine ⟨opening.arena, fresh session.stack opening.head opening.kind, same, rfl, rfl, ?_⟩
  let opened : Session := { session with
    arena := grown opening.arena session.stack session.active
      (fresh session.stack opening.head opening.kind)
    statics := opening.statics }
  change (if !tag.selfClosing then .ok (opened.enter opening.arena.size _)
    else if _ then opened.draw setting opening.arena.size else .ok opened) = .ok next at done
  rcases ite_eq_iff.mp done with ⟨-, done⟩ | ⟨-, done⟩
  · -- The tag is put on the stack.
    obtain rfl := Except.ok.inj done
    exact ⟨sameLinks_enter opened _ _, skip_enter_le opened _ _⟩
  · rcases ite_eq_iff.mp done with ⟨-, done⟩ | ⟨-, done⟩
    · -- The tag closes itself and is drawn.
      obtain ⟨links, skip⟩ := draw_eq_ok done
      exact ⟨links, Nat.le_succ_of_le (Nat.le_of_eq skip)⟩
    · -- The tag closes itself and is left out.
      obtain rfl := Except.ok.inj done
      exact ⟨.refl _, Nat.le_succ _⟩

/-- A closing tag leaves the links alone. -/
theorem closeTag_eq_ok (done : session.closeTag setting tag = .ok next) :
    next.arena.SameLinks session.arena ∧ next.skip ≤ session.skip := by
  cases top : session.stack with
  | nil =>
    rw [closeTag, top] at done
    cases done
  | cons id stack =>
    rw [closeTag_cons setting session tag top] at done
    split at done
    · cases done
    · split at done
      · obtain ⟨links, skip⟩ := draw_eq_ok done
        exact ⟨links, Nat.le_of_eq skip⟩
      · cases done
        exact ⟨.refl _, Nat.sub_le _ _⟩

/-- A step leaves the links alone, or adds those of a tag that is opened inside the
innermost one. -/
theorem Step.links (step : Step setting session next) :
    next.arena.SameLinks session.arena ∨
      ∃ arena node, arena.SameLinks session.arena ∧ node.parent = some session.top ∧
        node.children = [] ∧
        next.arena.SameLinks (grown arena session.stack session.active node) := by
  cases step with
  | text text => exact .inl (sameLinks_pushText session text)
  | opened _ done =>
    obtain ⟨arena, node, same, parent, childless, links, -⟩ := openTag_eq_ok done
    exact .inr ⟨arena, node, same, parent, childless, links⟩
  | closed done => exact .inl (closeTag_eq_ok done).1

private theorem linked_grown {arena : Arena} {node : Node} {stack : List NodeId} (active : Bool)
    (linked : arena.Linked) (parent : node.parent = some (stack.headD rootId))
    (childless : node.children = []) (top : stack.headD rootId < arena.size) :
    (grown arena stack active node).Linked := by
  have pushed := linked.push parent top childless
  cases active with
  | false => exact pushed
  | true =>
    refine pushed.adopt ?_ ?_ ?_
    · rw [Arena.parent?_push, if_pos rfl, parent]
    · rw [Arena.size_push]
      exact Nat.lt_succ_of_lt top
    · -- Every child so far was opened before the new tag.
      intro other member
      rw [Arena.childrenOf_push arena childless] at member
      exact linked.child_lt_size member

/-! ### The invariant of all steps -/

/-- The invariant that steps keep: links as they should be, and an outline beside the
session. -/
def Coherent (session : Session) : Prop :=
  session.arena.Linked ∧ ∃ outline, Outlined session outline

theorem Coherent.top_lt (coherent : session.Coherent) : session.top < session.arena.size := by
  obtain ⟨-, outline, arena, stack, rfl, standing, -⟩ := coherent
  exact standing.top_lt

private theorem Step.coherent (step : Step setting session next) (coherent : session.Coherent) :
    next.Coherent := by
  have top := coherent.top_lt
  obtain ⟨linked, outline, outlined⟩ := coherent
  constructor
  · -- The links are kept by the step,
    rcases step.links with same | ⟨arena, node, same, parent, childless, links⟩
    · exact linked.congr same
    · have below : session.stack.headD rootId < arena.size := same.size ▸ top
      exact (linked_grown session.active (linked.congr same) parent childless below).congr links
  · -- and the outline takes the same one.
    cases step with
    | text text => exact ⟨_, outlined.pushText text⟩
    | @opened _ tag kind _ done =>
      obtain ⟨arena, stack, rfl, standing, count⟩ := outlined
      have opens := openTag_related setting standing count tag kind
      obtain ⟨outline', -, outlined'⟩ := opens.exists_of_ok done
      exact ⟨outline', outlined'⟩
    | @closed _ tag done =>
      obtain ⟨arena, stack, rfl, standing, count⟩ := outlined
      have closes := closeTag_related setting standing count tag
      obtain ⟨outline', -, outlined'⟩ := closes.exists_of_ok done
      exact ⟨outline', outlined'⟩

private theorem linked_start (setting : Setting) : (start setting).arena.Linked := by
  have alone : (start setting).arena.size = 1 := rfl
  have childless (id : NodeId) : (start setting).arena.childrenOf id = [] :=
    (Arena.childrenOf_push .empty rfl id).trans rfl
  constructor
  · exact Nat.zero_lt_one
  · rfl
  · intro id above below
    exact absurd (Nat.lt_of_lt_of_eq below alone) (Nat.not_lt.mpr above)
  · intro id
    rw [childless]
    exact .nil
  · intro id child member
    rw [childless] at member
    cases member

private theorem Reaches.coherent (reaches : Reaches setting (start setting) session) :
    session.Coherent := by
  induction reaches with
  | refl => exact ⟨linked_start setting, Outline.start setting, outlined_start setting⟩
  | tail _ step ih => exact step.coherent ih

theorem Coherent.sound (coherent : session.Coherent) : session.Sound := by
  obtain ⟨linked, outline, outlined⟩ := coherent
  obtain ⟨arena, stack, rfl, standing, count⟩ := outlined
  constructor
  · exact standing.chained
  · exact count.trans standing.counted.symm
  · rintro rfl
    exact count.trans standing.active_of_nil
  · exact linked
  · intro id other child here there
    exact linked.disjoint here there

/-! ### Tags that are never listed -/

/-- A tag that no other one lists is never listed later. -/
theorem Step.unlisted (step : Step setting session next) {id : NodeId}
    (known : id < session.arena.size) (unlisted : ∀ outer, id ∉ session.arena.childrenOf outer)
    (top : session.top < session.arena.size) :
    id < next.arena.size ∧ ∀ outer, id ∉ next.arena.childrenOf outer := by
  rcases step.links with same | ⟨arena, node, same, parent, childless, links⟩
  · constructor
    · rw [same.size]
      exact known
    · intro outer
      rw [same.children]
      exact unlisted outer
  · constructor
    · rw [links.size, size_grown, same.size]
      exact Nat.lt_succ_of_lt known
    · intro outer
      have old : id ∉ arena.childrenOf outer := by
        rw [same.children]
        exact unlisted outer
      rw [links.children]
      cases session.active with
      | false =>
        rw [grown, if_neg Bool.false_ne_true, Arena.childrenOf_push arena childless]
        exact old
      | true =>
        have below : session.stack.headD rootId < (arena.push node).size := by
          rw [Arena.size_push, same.size]
          exact Nat.lt_succ_of_lt top
        rw [grown, if_pos rfl, Arena.childrenOf_adopt _ below,
          Arena.childrenOf_push arena childless]
        split
        · -- What is listed is the new tag, which is none of the known ones.
          have different : id ≠ arena.size := Nat.ne_of_lt (same.size ▸ known)
          simp [old, different]
        · exact old

/-- A tag that is opened while the skip counter is not zero is not listed. -/
theorem Step.hidden (step : Step setting session next) (linked : session.arena.Linked)
    (skipping : session.skip ≠ 0) {id : NodeId} (new : session.arena.size ≤ id)
    (outer : NodeId) : id ∉ next.arena.childrenOf outer := by
  intro listed
  -- What a tag lists has been opened before.
  have absent (arena : Arena) (same : arena.SameLinks session.arena) :
      id ∉ arena.childrenOf outer := by
    intro member
    have known := (linked.congr same).child_lt_size member
    rw [same.size] at known
    exact Nat.not_lt.mpr new known
  rcases step.links with same | ⟨arena, node, same, parent, childless, links⟩
  · exact absent _ same listed
  · have inactive : session.active = false := by simpa [active] using skipping
    rw [links.children, inactive, grown, if_neg Bool.false_ne_true,
      Arena.childrenOf_push arena childless] at listed
    exact absent arena same listed

theorem Reaches.unlisted {later : Session} (reaches : Reaches setting session later)
    (coherent : session.Coherent) {id : NodeId} (known : id < session.arena.size)
    (unlisted : ∀ outer, id ∉ session.arena.childrenOf outer) :
    ∀ outer, id ∉ later.arena.childrenOf outer := by
  -- That it stays unlisted depends on the links being right in between.
  have kept : later.Coherent ∧ id < later.arena.size ∧
      ∀ outer, id ∉ later.arena.childrenOf outer := by
    induction reaches with
    | refl => exact ⟨coherent, known, unlisted⟩
    | tail _ step ih =>
      obtain ⟨coherent, known, unlisted⟩ := ih
      have top : _ < _ := coherent.top_lt
      exact ⟨step.coherent coherent, step.unlisted known unlisted top⟩
  exact kept.2.2

/-! ### The states of compiling a text -/

/-- Visiting a tag takes in the text before it and the tag. -/
theorem reaches_visit {part : Markup.Part} (done : session.visit setting part = .ok next) :
    Reaches setting session next ∧ next.skip ≤ session.skip + 1 := by
  have text : Step setting session (session.pushText part.gap) := .text session part.gap
  simp only [visit] at done
  split at done
  · cases done
  · split at done
    · cases done
    · next kind known =>
      split at done
      · have bound := (closeTag_eq_ok done).2
        exact ⟨.tail (.single text) (.closed done), Nat.le_succ_of_le bound⟩
      · obtain ⟨-, -, -, -, -, -, bound⟩ := openTag_eq_ok done
        exact ⟨.tail (.single text) (.opened known done), bound⟩

private theorem reaches_run {parts : List Markup.Part}
    (done : parts.foldlM (visit setting) session = .ok next) :
    Reaches setting session next ∧ next.skip ≤ session.skip + parts.length := by
  induction parts generalizing session with
  | nil =>
    cases done
    exact ⟨.refl, Nat.le_refl _⟩
  | cons part rest ih =>
    rw [List.foldlM_cons] at done
    obtain ⟨middle, here, later⟩ := bind_eq_ok.mp done
    obtain ⟨first, bound⟩ := reaches_visit here
    obtain ⟨reaches, total⟩ := ih later
    refine ⟨first.trans reaches, ?_⟩
    rw [List.length_cons]
    omega

end Session

/-! ### The end of a template -/

namespace Outline

variable {setting : Setting} {outline : Outline} {source : String} {opened : Nat}

private theorem visit_ne_unbalancedSkip (part : Markup.Part) :
    outline.visit setting part ≠ .error (.unbalancedSkip source opened) := by
  intro failed
  simp only [visit] at failed
  split at failed
  · cases failed
  · split at failed
    · cases failed
    · split at failed
      · cases around : (outline.pushText part.gap).outer with
        | nil =>
          rw [closeTag, around] at failed
          cases failed
        | cons parent outer =>
          rw [closeTag_cons setting part.tag around] at failed
          split at failed
          · cases failed
          · split at failed
            · cases draw_eq_error failed
            · cases failed
      · cases openTag_eq_error failed

end Outline

private theorem Outlined.finish_ne_unbalancedSkip {setting : Setting} {session : Session}
    {outline : Outline} (outlined : Outlined session outline) (text source : String)
    (opened : Nat) : session.finish setting text ≠ .error (.unbalancedSkip source opened) := by
  intro failed
  rw [outlined.finish] at failed
  obtain ⟨arena, stack, -, standing, count⟩ := outlined
  cases around : outline.outer with
  | cons parent outer =>
    rw [Outline.finish_cons setting text around] at failed
    cases failed
  | nil =>
    -- Only what holds the template is left, and that leaves nothing out.
    have balanced : outline.skip = 0 := by
      rw [Outline.frames, around] at standing
      rw [count, Outline.frames, around]
      cases standing with
      | root active _ => simp [active]
      | inside _ outside => cases outside
    rw [Outline.finish_nil setting text around, if_neg (not_not_intro balanced)] at failed
    cases expanded : (setting.bindings outline.statics).expand setting.source text
        outline.top.body with
    | ok body =>
      rw [expanded] at failed
      cases failed
    | error error =>
      obtain ⟨location, written, reason, rfl⟩ := Bindings.expand_eq_error expanded
      rw [expanded] at failed
      cases failed

/-- No template leaves the skip counter unbalanced. -/
theorem compileTemplate_ne_unbalancedSkip (setting : Setting) (text source : String)
    (opened : Nat) : compileTemplate setting text ≠ .error (.unbalancedSkip source opened) := by
  intro failed
  have run := run_related setting (outlined_start setting)
    (Markup.scan setting.registry.namespaces text.toList).parts
  rw [compileTemplate] at failed
  cases ran : (Markup.scan setting.registry.namespaces text.toList).parts.foldlM
      (Session.visit setting) (Session.start setting) with
  | error error =>
    rw [ran] at failed
    cases failed
    obtain ⟨error, stopped, same⟩ := run.exists_of_error ran
    subst same
    obtain ⟨outline, part, -, here⟩ := foldlM_eq_error stopped
    exact Outline.visit_ne_unbalancedSkip part here
  | ok session =>
    rw [ran] at failed
    obtain ⟨outline, -, outlined⟩ := run.exists_of_ok ran
    exact (outlined.pushText _).finish_ne_unbalancedSkip text source opened failed

/-- In every state of a compile the open tags are a chain, the skip counter counts those
that leave out what is in them, and tags are linked as they should be. What is opened
while the counter is not zero is never listed. The states of compiling a text are such
states, with a counter no greater than the number of tags so far, and no text is
reported to leave the counter unbalanced. -/
theorem reached_sound (setting : Setting) :
    (∀ session, Session.Reaches setting (.start setting) session → session.Sound) ∧
    (∀ earlier next later, Session.Reaches setting (.start setting) earlier →
      earlier.skip ≠ 0 → Session.Step setting earlier next → Session.Reaches setting next later →
      ∀ id, earlier.arena.size ≤ id → id < next.arena.size →
        ∀ outer, id ∉ later.arena.childrenOf outer) ∧
    (∀ (text : String) done session,
      done <+: (Markup.scan setting.registry.namespaces text.toList).parts →
      done.foldlM (Session.visit setting) (.start setting) = .ok session →
      Session.Reaches setting (.start setting) session ∧ session.skip ≤ done.length) ∧
    ∀ text source opened,
      compileTemplate setting text ≠ .error (.unbalancedSkip source opened) := by
  refine ⟨?_, ?_, ?_, ?_⟩
  · intro session reaches
    exact reaches.coherent.sound
  · intro earlier next later reaches skipping step onward id new known
    have coherent := reaches.coherent
    -- A node made while something is skipped gets no parent that lists it, and none later.
    have unlisted := step.hidden coherent.1 skipping new
    exact onward.unlisted (step.coherent coherent) known unlisted
  · intro text done session _ ran
    obtain ⟨reaches, bound⟩ := Session.reaches_run ran
    exact ⟨reaches, Nat.le_trans bound (Nat.le_of_eq (Nat.zero_add _))⟩
  · exact compileTemplate_ne_unbalancedSkip setting

end Stencil
