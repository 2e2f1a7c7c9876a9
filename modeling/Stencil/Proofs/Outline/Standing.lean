import Stencil.Proofs.Arena
import Stencil.Proofs.Outline.Basic

/-!
# Outlines in arenas

How an outline stands in an arena. The numbers of the nodes follow the document, so
everything in a tag lies between its own number and that of the next tag behind it.
What happens at one open tag therefore leaves alone what stands before it.
-/
namespace Stencil

/-- The nodes with these numbers, all from `lo` on and below `hi`, and what is in them
stand for these trees. A conditional with nothing in it need not stand for a tree. -/
inductive Shows (arena : Arena) : Nat → List NodeId → List Tree → Nat → Prop where
  | nil {lo hi : Nat} : lo ≤ hi → Shows arena lo [] [] hi
  | tree {lo mid hi : Nat} {id : NodeId} {node : Node} {ids : List NodeId}
      {inner trees : List Tree} : lo ≤ id → arena.node? id = some node →
      Shows arena (id + 1) node.children inner mid → Shows arena mid ids trees hi →
      Shows arena lo (id :: ids) (.node node.head node.kind node.body inner :: trees) hi
  | hidden {lo hi : Nat} {id : NodeId} {node : Node} {ids : List NodeId} {trees : List Tree} :
      lo ≤ id → arena.node? id = some node → node.kind.isConditional → node.children = [] →
      Shows arena (id + 1) ids trees hi → Shows arena lo (id :: ids) trees hi

namespace Shows

variable {arena arena' : Arena} {lo mid hi hi' : Nat} {ids ids' : List NodeId}
  {trees trees' : List Tree}

theorem le (shows : Shows arena lo ids trees hi) : lo ≤ hi := by
  induction shows with
  | nil bound => exact bound
  | tree above _ _ _ inner later => omega
  | hidden above _ _ _ _ later => omega

/-- Nodes elsewhere do not matter. -/
theorem congr (shows : Shows arena lo ids trees hi)
    (agree : ∀ id, lo ≤ id → id < hi → arena'.node? id = arena.node? id) :
    Shows arena' lo ids trees hi := by
  induction shows with
  | nil bound => exact .nil bound
  | tree above here inner later ihInner ihLater =>
    have innerBound := inner.le
    have laterBound := later.le
    have inner' := ihInner fun id low high => agree id (by omega) (by omega)
    have later' := ihLater fun id low high => agree id (by omega) high
    exact .tree above ((agree _ above (by omega)).trans here) inner' later'
  | hidden above here conditional childless later ih =>
    have laterBound := later.le
    refine .hidden above ((agree _ above (by omega)).trans here) conditional childless ?_
    exact ih fun id low high => agree id (by omega) high

theorem append (first : Shows arena lo ids trees mid) (second : Shows arena mid ids' trees' hi) :
    Shows arena lo (ids ++ ids') (trees ++ trees') hi := by
  induction first with
  | nil bound =>
    -- There may be unused numbers between the two.
    cases second with
    | nil bound' => exact .nil (Nat.le_trans bound bound')
    | tree above here inner later => exact .tree (Nat.le_trans bound above) here inner later
    | hidden above here conditional childless later =>
      exact .hidden (Nat.le_trans bound above) here conditional childless later
  | tree above here inner _ _ ih => exact .tree above here inner (ih second)
  | hidden above here conditional childless _ ih =>
    exact .hidden above here conditional childless (ih second)

theorem extend (shows : Shows arena lo ids trees hi) (bound : hi ≤ hi') :
    Shows arena lo ids trees hi' := by
  simpa using shows.append (.nil bound)

end Shows

/-! ### What a form looks at -/

/-- A walk over an arena that begins with these numbers visits `visited` first, no more
than there are numbers below `hi`, and a form makes of them what it makes of the trees. -/
structure Visits (arena : Arena) (messages : Messages) (lo : Nat) (ids : List NodeId)
    (trees : List Tree) (hi : Nat) (visited : List NodeId) : Prop where
  bound : lo + visited.length ≤ hi
  walk : ∀ n todo, visited.length ≤ n →
    arena.visit (fun inner => !inner.kind.isValueTag) n (ids ++ todo)
      = visited ++ arena.visit (fun inner => !inner.kind.isValueTag) (n - visited.length) todo
  forms : ∀ form, (visited.filterMap arena.node?).foldlM (Form.addNode messages) form
    = (Tree.visibleIn trees).foldlM (Form.addNode messages) form

namespace Visits

variable {arena : Arena} {messages : Messages} {lo mid hi : Nat} {id : NodeId} {node : Node}
  {ids visited innerVisited laterVisited : List NodeId} {inner trees : List Tree}

theorem nil (arena : Arena) (messages : Messages) (bound : lo ≤ hi) :
    Visits arena messages lo [] [] hi [] where
  bound := bound
  walk _ _ _ := rfl
  forms _ := rfl

/-- A form looks at the head and the kind of a node, but not at where it stands. -/
theorem addNode_eq (node : Node) (form : Form) :
    Form.addNode messages form node
      = Form.addNode messages form ⟨node.head, node.kind, none, node.body, [], false⟩ := by
  have alike : Node.Alike (· = ·) node ⟨node.head, node.kind, none, node.body, [], false⟩ :=
    ⟨.refl _, rfl, rfl⟩
  exact (Form.addNode_alike messages form alike).eq_of_content

/-- The walk does not go into a tag that has a value. -/
theorem value (above : lo ≤ id) (here : arena.node? id = some node)
    (isValue : node.kind.isValueTag = true) (shown : Nat.succ id ≤ mid)
    (later : Visits arena messages mid ids trees hi visited) :
    Visits arena messages lo (id :: ids) (.node node.head node.kind node.body inner :: trees) hi
      (id :: visited) where
  bound := by
    have bound := later.bound
    rw [List.length_cons]
    omega
  walk n todo fuel := by
    cases n with
    | zero => cases fuel
    | succ n =>
      have rest := later.walk n todo (Nat.le_of_succ_le_succ fuel)
      simpa [Arena.visit, here, isValue] using rest
  forms form := by
    simp only [List.filterMap_cons, here, Tree.visibleIn, Tree.visible, isValue, if_true,
      List.cons_append, List.nil_append, List.foldlM_cons, addNode_eq node form, later.forms]

/-- It goes into every other tag before it goes on. -/
theorem branch (above : lo ≤ id) (here : arena.node? id = some node)
    (noValue : node.kind.isValueTag = false)
    (inside : Visits arena messages (id + 1) node.children inner mid innerVisited)
    (later : Visits arena messages mid ids trees hi laterVisited) :
    Visits arena messages lo (id :: ids) (.node node.head node.kind node.body inner :: trees) hi
      (id :: innerVisited ++ laterVisited) where
  bound := by
    have innerBound := inside.bound
    have laterBound := later.bound
    rw [List.cons_append, List.length_cons, List.length_append]
    omega
  walk n todo fuel := by
    cases n with
    | zero => cases fuel
    | succ n =>
      simp only [List.length_cons, List.cons_append, List.length_append] at fuel
      -- The steps for the inside are taken first, those left are for what comes later.
      have within := inside.walk n (ids ++ todo) (by omega)
      have rest := later.walk (n - innerVisited.length) todo (by omega)
      simp [Arena.visit, here, noValue, within, rest, Nat.sub_sub]
  forms form := by
    simp [here, Tree.visibleIn, Tree.visible, noValue, addNode_eq node, later.forms, inside.forms,
      List.foldlM_append]

/-- A conditional with nothing in it contributes nothing to a form. -/
theorem addNode_conditional (conditional : node.kind.isConditional) (form : Form) :
    Form.addNode messages form node = .ok form := by
  cases kind : node.kind with
  | staticIf comparison =>
    simp [Form.addNode, Node.group?, Node.validator?, kind, bind, Except.bind, pure, Except.pure]
  | _ =>
    rw [kind] at conditional
    cases conditional

theorem hidden (above : lo ≤ id) (here : arena.node? id = some node)
    (conditional : node.kind.isConditional) (childless : node.children = [])
    (later : Visits arena messages (id + 1) ids trees hi visited) :
    Visits arena messages lo (id :: ids) trees hi (id :: visited) where
  bound := by
    have bound := later.bound
    rw [List.length_cons]
    omega
  walk n todo fuel := by
    cases n with
    | zero => cases fuel
    | succ n =>
      have rest := later.walk n todo (Nat.le_of_succ_le_succ fuel)
      simpa [Arena.visit, here, childless] using rest
  forms form := by
    simp only [List.filterMap_cons, here, List.foldlM_cons, addNode_conditional conditional]
    exact later.forms form

end Visits

/-- The nodes a form looks at are the visible ones of its trees. -/
theorem Shows.visits {arena : Arena} {lo hi : Nat} {ids : List NodeId} {trees : List Tree}
    (shows : Shows arena lo ids trees hi) (messages : Messages) :
    ∃ visited, Visits arena messages lo ids trees hi visited := by
  induction shows with
  | nil bound => exact ⟨[], .nil arena messages bound⟩
  | @tree lo mid hi id node ids inner trees above here shown _ ihInner ihLater =>
    obtain ⟨innerVisited, inside⟩ := ihInner
    obtain ⟨laterVisited, later⟩ := ihLater
    cases value : node.kind.isValueTag with
    | true => exact ⟨_, .value above here value shown.le later⟩
    | false => exact ⟨_, .branch above here value inside later⟩
  | hidden above here conditional childless _ ih =>
    obtain ⟨visited, later⟩ := ih
    exact ⟨_, .hidden above here conditional childless later⟩

/-- The form of a node is the one of its trees. -/
theorem Form.ofNode_eq_ofTrees {arena : Arena} {node : Node} {lo : Nat} {inner : List Tree}
    (shows : Shows arena lo node.children inner arena.size) (messages : Messages) :
    Form.ofNode messages arena node = Form.ofTrees messages node.head inner := by
  obtain ⟨visited, bound, walk, forms⟩ := shows.visits messages
  -- The walk is given as many steps as there are nodes, which is enough.
  have listed := walk arena.size [] (by omega)
  simp only [List.append_nil] at listed
  simp only [Form.ofNode, Form.ofTrees, Arena.descendants, listed]
  have nothing (n : Nat) : arena.visit (fun inner => !inner.kind.isValueTag) n [] = [] := by
    cases n <;> rfl
  rw [nothing, List.append_nil]
  exact forms _

/-! ### Open tags -/

/-- An open tag stands at a number. Behind the numbers of the closed tags in it its
children may list `pending` ones. What leaves out its contents has no children. -/
def Frame.At (arena : Arena) (id : NodeId) (parent : Option NodeId) (pending : List NodeId)
    (hi : Nat) (frame : Frame) : Prop :=
  ∃ ids, arena.node? id
      = some ⟨frame.head, frame.kind, parent, frame.body, ids ++ pending, frame.skipping⟩ ∧
    Shows arena (id + 1) ids frame.inner hi ∧
    (frame.skipping → frame.kind.isConditional ∧ ids = [])

/-- A tag is a child of the one around it unless it is left out. -/
def adopted (id : NodeId) (outer : List Frame) : List NodeId :=
  if outer.any (·.skipping) then [] else [id]

/-- The open tags stand at the numbers of a stack, each in the one below it, and the
outermost at the number of the root, which leaves nothing out. -/
inductive Standing (arena : Arena) : List NodeId → List Frame → List NodeId → Nat → Prop where
  | root {frame : Frame} {pending : List NodeId} {hi : Nat} :
      frame.skipping = false → frame.At arena Session.rootId none pending hi →
      Standing arena [] [frame] pending hi
  | inside {id : NodeId} {stack : List NodeId} {frame : Frame} {outer : List Frame}
      {pending : List NodeId} {hi : Nat} :
      frame.At arena id (some (stack.headD Session.rootId)) pending hi →
      Standing arena stack outer (adopted id outer) id →
      Standing arena (id :: stack) (frame :: outer) pending hi

namespace Frame

variable {arena arena' : Arena} {id : NodeId} {parent : Option NodeId} {pending : List NodeId}
  {hi : Nat} {frame : Frame}

theorem At.found (here : frame.At arena id parent pending hi) :
    ∃ node, arena.node? id = some node ∧ node.head = frame.head ∧ node.kind = frame.kind ∧
      node.parent = parent := by
  obtain ⟨ids, node, -, -⟩ := here
  exact ⟨_, node, rfl, rfl, rfl⟩

theorem At.lt (here : frame.At arena id parent pending hi) : id < hi := by
  obtain ⟨ids, -, shows, -⟩ := here
  exact shows.le

/-- Nodes elsewhere do not matter. -/
theorem At.congr (here : frame.At arena id parent pending hi)
    (agree : ∀ other, id ≤ other → other < hi → arena'.node? other = arena.node? other) :
    frame.At arena' id parent pending hi := by
  have bound := here.lt
  obtain ⟨ids, node, shows, skipping⟩ := here
  refine ⟨ids, (agree id (Nat.le_refl id) bound).trans node, ?_, skipping⟩
  exact shows.congr fun other low high => agree other (Nat.le_of_succ_le low) high

/-- A change to the node of an open tag that leaves its links alone. -/
theorem At.update (here : frame.At arena id parent pending hi) {f : Node → Node} {changed : Frame}
    (node : ∀ ids, f ⟨frame.head, frame.kind, parent, frame.body, ids ++ pending, frame.skipping⟩
      = ⟨changed.head, changed.kind, parent, changed.body, ids ++ pending, changed.skipping⟩)
    (inner : changed.inner = frame.inner)
    (skipping : changed.skipping → frame.skipping ∧ changed.kind.isConditional) :
    changed.At (arena.update id f) id parent pending hi := by
  obtain ⟨ids, found, shows, conditional⟩ := here
  refine ⟨ids, ?_, ?_, ?_⟩
  · rw [Arena.node?_update_self, found, Option.map_some, node ids]
  · rw [inner]
    exact shows.congr fun other low _ => Arena.node?_update_of_lt low
  · intro left
    obtain ⟨was, kind⟩ := skipping left
    exact ⟨kind, (conditional was).2⟩

/-- A tag that becomes a child is pending. -/
theorem At.adopt (here : frame.At arena id parent [] hi) (child : NodeId)
    (active : frame.skipping = false) :
    frame.At (arena.adopt id child) id parent [child] hi := by
  obtain ⟨ids, found, shows, conditional⟩ := here
  refine ⟨ids, ?_, ?_, ?_⟩
  · rw [Arena.adopt, Arena.node?_update_self, found]
    simp
  · exact shows.congr fun other low _ => Arena.node?_update_of_lt low
  · simp [active]

end Frame

namespace Standing

variable {arena arena' : Arena} {stack : List NodeId} {frames : List Frame} {frame changed : Frame}
  {outer : List Frame} {pending pending' : List NodeId} {hi hi' : Nat}

theorem congr (standing : Standing arena stack frames pending hi)
    (agree : ∀ id < hi, arena'.node? id = arena.node? id) :
    Standing arena' stack frames pending hi := by
  induction standing with
  | root active here => exact .root active (here.congr fun other _ high => agree other high)
  | inside here _ ih =>
    -- What is around a tag stands below it.
    have bound := here.lt
    refine .inside (here.congr fun other _ high => agree other high) (ih fun other low => ?_)
    exact agree other (Nat.lt_trans low bound)

theorem top_lt (standing : Standing arena stack frames pending hi) :
    stack.headD Session.rootId < hi := by
  cases standing with
  | root _ here => exact here.lt
  | inside here _ => exact here.lt

/-- The innermost open tag can be exchanged as long as what is before it stays. -/
theorem replace (standing : Standing arena stack (frame :: outer) pending hi)
    (agree : ∀ id < stack.headD Session.rootId, arena'.node? id = arena.node? id)
    (kept : changed.skipping = frame.skipping)
    (exchange : ∀ parent, frame.At arena (stack.headD Session.rootId) parent pending hi →
      changed.At arena' (stack.headD Session.rootId) parent pending' hi') :
    Standing arena' stack (changed :: outer) pending' hi' := by
  cases standing with
  | root active here => exact .root (kept.trans active) (exchange _ here)
  | inside here around => exact .inside (exchange _ here) (around.congr agree)

/-- The root leaves nothing out. -/
theorem active_of_nil (standing : Standing arena [] frames pending hi) :
    frames.countP (·.skipping) = 0 := by
  cases standing with
  | root active _ => simp [active]

end Standing

end Stencil
