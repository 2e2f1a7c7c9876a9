import Mathlib.Data.List.Basic
import Mathlib.Data.List.Nodup
import Mathlib.Data.List.Perm.Subperm
import Mathlib.Tactic.IntervalCases
import Stencil.Proofs.Arena

/-!
# Walking down an arena

The nodes inside a node are found by a loop over a stack of nodes that are still to visit. Where
every child stands behind the node it is in, and in no other node, no node gets on the stack
twice. So the loop ends, and it visits the nodes in document order, each one once (`Preorder`).
-/
namespace Stencil.Arena

/-- That a child is a node behind the one it is in, and the child of no other node. -/
structure Ordered (arena : Arena) : Prop where
  behind : ∀ id node, arena.node? id = some node →
    ∀ child ∈ node.children, id < child ∧ child < arena.size
  once : (arena.nodes.toList.flatMap Node.children).Nodup

/-- What follows some nodes in document order: each of them, and behind it the nodes inside of it
if the test says to look there. -/
inductive Preorder (arena : Arena) (descend : Node → Bool) : List NodeId → List NodeId → Prop where
  | nil : Preorder arena descend [] []
  | enter {id : NodeId} {node : Node} {rest inner after : List NodeId} :
      arena.node? id = some node → descend node = true →
      Preorder arena descend node.children inner → Preorder arena descend rest after →
      Preorder arena descend (id :: rest) (id :: (inner ++ after))
  | pass {id : NodeId} {node : Node} {rest after : List NodeId} :
      arena.node? id = some node → descend node = false →
      Preorder arena descend rest after → Preorder arena descend (id :: rest) (id :: after)

/-- The loop at hand: what has been visited so far, and what is still to visit, the next node
last. -/
structure Traversal where
  visited : List NodeId
  stack : List NodeId

variable {arena : Arena} {descend : Node → Bool}

/-- The children of a node that are to be visited. -/
def entered (arena : Arena) (descend : Node → Bool) (id : NodeId) : List NodeId :=
  match arena.node? id with
  | some node => if descend node then node.children else []
  | none => []

private theorem entered_of_node? {id : NodeId} {node : Node} (here : arena.node? id = some node) :
    arena.entered descend id = if descend node then node.children else [] := by
  rw [entered, here]

private theorem visit_cons (n : Nat) (id : NodeId) (todo : List NodeId) :
    arena.visit descend (n + 1) (id :: todo)
      = id :: arena.visit descend n (arena.entered descend id ++ todo) := rfl

/-- Visit the last node of the stack and put its children there, the first one last. -/
def Traversal.turn? (arena : Arena) (descend : Node → Bool) (walk : Traversal) :
    Option Traversal :=
  walk.stack.getLast?.map fun id =>
    ⟨walk.visited ++ [id], walk.stack.dropLast ++ (arena.entered descend id).reverse⟩

/-- A number of turns, or less if the stack is empty before. -/
def Traversal.run (arena : Arena) (descend : Node → Bool) : Nat → Traversal → Traversal
  | 0, walk => walk
  | n + 1, walk =>
    match walk.turn? arena descend with
    | some next => run arena descend n next
    | none => walk

namespace Traversal

private theorem turn?_concat (visited stack : List NodeId) (id : NodeId) :
    turn? arena descend ⟨visited, stack ++ [id]⟩
      = some ⟨visited ++ [id], stack ++ (arena.entered descend id).reverse⟩ := by
  simp [turn?]

private theorem run_nil (n : Nat) (visited : List NodeId) :
    run arena descend n ⟨visited, []⟩ = ⟨visited, []⟩ := by
  cases n <;> rfl

private theorem run_concat (n : Nat) (visited stack : List NodeId) (id : NodeId) :
    run arena descend (n + 1) ⟨visited, stack ++ [id]⟩
      = run arena descend n ⟨visited ++ [id], stack ++ (arena.entered descend id).reverse⟩ := by
  rw [run, turn?_concat]

/-- A walk that counts visits visits what as many turns of the loop do. -/
private theorem visited_run (arena : Arena) (descend : Node → Bool) (n : Nat) (walk : Traversal) :
    (run arena descend n walk).visited = walk.visited ++ arena.visit descend n walk.stack.reverse := by
  induction n generalizing walk with
  | zero => simp [run, visit]
  | succ n ih =>
    obtain ⟨visited, stack⟩ := walk
    rcases List.eq_nil_or_concat' stack with rfl | ⟨stack, id, rfl⟩
    · simp [run_nil, visit]
    · rw [run_concat, ih]
      simp [visit_cons]

end Traversal

/-! ### The order of visits -/

theorem Preorder.append {left right before after : List NodeId}
    (first : Preorder arena descend left before) (second : Preorder arena descend right after) :
    Preorder arena descend (left ++ right) (before ++ after) := by
  induction first with
  | nil => exact second
  | enter here enters inner _ _ ih =>
    rw [List.cons_append, List.cons_append, List.append_assoc]
    exact .enter here enters inner ih
  | pass here passes _ ih => exact .pass here passes ih

private theorem Preorder.exists_append {left right visited : List NodeId}
    (walked : Preorder arena descend (left ++ right) visited) :
    ∃ before after, visited = before ++ after ∧ Preorder arena descend left before ∧
      Preorder arena descend right after := by
  induction left generalizing visited with
  | nil => exact ⟨[], visited, rfl, .nil, walked⟩
  | cons id left ih =>
    rw [List.cons_append] at walked
    cases walked with
    | enter here enters inner walked =>
      obtain ⟨before, after, rfl, first, second⟩ := ih walked
      exact ⟨_, after, by simp, .enter here enters inner first, second⟩
    | pass here passes walked =>
      obtain ⟨before, after, rfl, first, second⟩ := ih walked
      exact ⟨_, after, by simp, .pass here passes first, second⟩

/-- There is only one document order. -/
theorem Preorder.unique {ids visited other : List NodeId}
    (walked : Preorder arena descend ids visited) (again : Preorder arena descend ids other) :
    visited = other := by
  induction walked generalizing other with
  | nil =>
    cases again
    rfl
  -- The node decides which step was taken, so both walks took the same.
  | enter here enters _ _ innerIh restIh =>
    cases again with
    | enter there _ inner rest =>
      obtain rfl := Option.some.inj (here.symm.trans there)
      rw [innerIh inner, restIh rest]
    | pass there passes _ =>
      obtain rfl := Option.some.inj (here.symm.trans there)
      rw [enters] at passes
      cases passes
  | pass here passes _ restIh =>
    cases again with
    | enter there enters _ _ =>
      obtain rfl := Option.some.inj (here.symm.trans there)
      rw [enters] at passes
      cases passes
    | pass _ _ rest => rw [restIh rest]

private theorem Preorder.cons_entered {id : NodeId} {rest visited : List NodeId}
    (known : id < arena.size)
    (walked : Preorder arena descend (arena.entered descend id ++ rest) visited) :
    Preorder arena descend (id :: rest) (id :: visited) := by
  obtain ⟨node, here⟩ : ∃ node, arena.node? id = some node :=
    ⟨arena.nodes[id], Array.getElem?_eq_getElem known⟩
  rw [entered_of_node? here] at walked
  cases enters : descend node with
  | true =>
    rw [if_pos enters] at walked
    obtain ⟨inner, after, rfl, first, second⟩ := walked.exists_append
    exact .enter here enters first second
  | false =>
    rw [if_neg (by simp [enters])] at walked
    exact .pass here enters walked

/-! ### No node gets on the stack twice -/

private theorem Ordered.nodup_children (ordered : arena.Ordered) {id : NodeId} {node : Node}
    (here : arena.node? id = some node) : node.children.Nodup := by
  have member : node ∈ arena.nodes.toList := Array.mem_toList_iff.mpr (Array.mem_of_getElem? here)
  exact (List.nodup_flatMap.mp ordered.once).1 node member

/-- A node is the child of one other node at most. -/
theorem Ordered.eq_of_mem_children (ordered : arena.Ordered) {a b child : NodeId} {n m : Node}
    (atA : arena.node? a = some n) (atB : arena.node? b = some m) (inA : child ∈ n.children)
    (inB : child ∈ m.children) : a = b := by
  have apart := List.pairwise_iff_getElem.mp (List.nodup_flatMap.mp ordered.once).2
  obtain ⟨belowA, rfl⟩ := Array.getElem?_eq_some_iff.mp atA
  obtain ⟨belowB, rfl⟩ := Array.getElem?_eq_some_iff.mp atB
  rcases Nat.lt_trichotomy a b with less | same | more
  · exact absurd inB (apart a b (by simpa) (by simpa) less inA)
  · exact same
  · exact absurd inA (apart b a (by simpa) (by simpa) more inB)

/-- What holds of a walk that started at a node: all nodes on it are different and stand behind
the first one, and each is a child of the first or of one that has been visited. -/
structure Traversal.Sound (arena : Arena) (start : NodeId) (walk : Traversal) : Prop where
  nodup : (walk.visited ++ walk.stack).Nodup
  range : ∀ id ∈ walk.visited ++ walk.stack, start < id ∧ id < arena.size
  inside : ∀ id ∈ walk.visited ++ walk.stack, ∃ parent node,
    (parent = start ∨ parent ∈ walk.visited) ∧ arena.node? parent = some node ∧
      id ∈ node.children

namespace Traversal

variable {start id : NodeId} {visited stack : List NodeId} {walk : Traversal}

private theorem sound_children (ordered : arena.Ordered) {node : Node}
    (here : arena.node? start = some node) : Sound arena start ⟨[], node.children.reverse⟩ where
  nodup := List.nodup_reverse.mpr (ordered.nodup_children here)
  range id member := ordered.behind start node here id (by simpa using member)
  inside id member := ⟨start, node, .inl rfl, here, by simpa using member⟩

/-- The children of a node are new when it is visited: the node they are in has not been visited
before, and is not the one the walk started at. -/
private theorem Sound.not_mem_of_child (sound : Sound arena start ⟨visited, stack ++ [id]⟩)
    (ordered : arena.Ordered) {node : Node} (here : arena.node? id = some node) {child : NodeId}
    (inner : child ∈ node.children) : child ∉ visited ++ (stack ++ [id]) := by
  intro member
  obtain ⟨parent, other, before, there, also⟩ := sound.inside child member
  obtain rfl := ordered.eq_of_mem_children here there inner also
  rcases before with first | earlier
  · exact absurd first.symm (Nat.ne_of_lt (sound.range id (by simp)).1)
  · exact List.disjoint_of_nodup_append sound.nodup earlier (by simp)

private theorem mem_entered {child : NodeId} (member : child ∈ arena.entered descend id) :
    ∃ node, arena.node? id = some node ∧ child ∈ node.children := by
  unfold entered at member
  split at member
  · next node here =>
    split at member
    · exact ⟨node, here, member⟩
    · cases member
  · cases member

private theorem nodup_entered (ordered : arena.Ordered) (id : NodeId) :
    (arena.entered descend id).Nodup := by
  unfold entered
  split
  · next node here =>
    split
    · exact ordered.nodup_children here
    · exact .nil
  · exact .nil

private theorem Sound.turn (sound : Sound arena start ⟨visited, stack ++ [id]⟩)
    (ordered : arena.Ordered) :
    Sound arena start ⟨visited ++ [id], stack ++ (arena.entered descend id).reverse⟩ := by
  -- What was on the walk stays there; what is new are children of the node being visited.
  have cases_mem : ∀ {other : NodeId},
      other ∈ (visited ++ [id]) ++ (stack ++ (arena.entered descend id).reverse) →
        other ∈ visited ++ (stack ++ [id]) ∨ other ∈ arena.entered descend id := by
    intro other member
    simp only [List.mem_append, List.mem_reverse, List.mem_singleton] at member ⊢
    tauto
  have now := sound.range id (by simp)
  constructor
  · have fresh : (visited ++ (stack ++ [id])).Disjoint (arena.entered descend id) := by
      intro child old new
      obtain ⟨node, here, inner⟩ := mem_entered new
      exact sound.not_mem_of_child ordered here inner old
    have all := List.Nodup.append sound.nodup (nodup_entered ordered id) fresh
    refine all.perm ?_
    have moved : (visited ++ (stack ++ [id])).Perm (visited ++ ([id] ++ stack)) :=
      List.perm_append_comm.append_left visited
    have turned := (List.reverse_perm (arena.entered descend id)).symm
    simpa using moved.append turned
  · intro other member
    rcases cases_mem member with old | new
    · exact sound.range other old
    · obtain ⟨node, here, inner⟩ := mem_entered new
      have behind := ordered.behind id node here other inner
      exact ⟨Nat.lt_trans now.1 behind.1, behind.2⟩
  · intro other member
    rcases cases_mem member with old | new
    · obtain ⟨parent, node, before, there, inner⟩ := sound.inside other old
      exact ⟨parent, node, before.imp_right (List.mem_append_left [id]), there, inner⟩
    · obtain ⟨node, here, inner⟩ := mem_entered new
      exact ⟨id, node, .inr (by simp), here, inner⟩

theorem Sound.after (sound : Sound arena start walk) (ordered : arena.Ordered)
    (descend : Node → Bool) (n : Nat) : Sound arena start (run arena descend n walk) := by
  induction n generalizing walk with
  | zero => exact sound
  | succ n ih =>
    obtain ⟨visited, stack⟩ := walk
    rcases List.eq_nil_or_concat' stack with rfl | ⟨stack, id, rfl⟩
    · exact sound
    · rw [run_concat]
      exact ih (sound.turn ordered)

/-- There are no more nodes on a walk than in the arena. -/
theorem Sound.length_le (sound : Sound arena start walk) :
    walk.visited.length + walk.stack.length ≤ arena.size := by
  have within : walk.visited ++ walk.stack ⊆ List.range arena.size := by
    intro id member
    exact List.mem_range.mpr (sound.range id member).2
  have few := (sound.nodup.subperm within).length_le
  simpa using few

/-- As every turn visits a node, the loop ends when there are no nodes left. -/
private theorem Sound.stack_run (sound : Sound arena start walk) (ordered : arena.Ordered)
    (descend : Node → Bool) {n : Nat} (enough : arena.size ≤ walk.visited.length + n) :
    (run arena descend n walk).stack = [] := by
  induction n generalizing walk with
  | zero =>
    have few := sound.length_le
    exact List.eq_nil_of_length_eq_zero (by rw [run]; omega)
  | succ n ih =>
    obtain ⟨visited, stack⟩ := walk
    rcases List.eq_nil_or_concat' stack with rfl | ⟨stack, id, rfl⟩
    · rw [run_nil]
    · rw [run_concat]
      refine ih (sound.turn ordered) ?_
      simp only [List.length_append, List.length_singleton] at enough ⊢
      omega

/-- What a loop that ends still visits is what follows the nodes on its stack. -/
theorem Sound.preorder (sound : Sound arena start walk) (ordered : arena.Ordered) {n : Nat}
    (done : (run arena descend n walk).stack = []) :
    Preorder arena descend walk.stack.reverse (arena.visit descend n walk.stack.reverse) := by
  induction n generalizing walk with
  | zero =>
    have empty : walk.stack = [] := done
    rw [empty]
    exact .nil
  | succ n ih =>
    obtain ⟨visited, stack⟩ := walk
    rcases List.eq_nil_or_concat' stack with rfl | ⟨stack, id, rfl⟩
    · exact .nil
    · rw [run_concat] at done
      have later := ih (sound.turn ordered) done
      rw [List.reverse_append, List.reverse_reverse] at later
      simp only [List.reverse_append, List.reverse_singleton, List.singleton_append, visit_cons]
      exact .cons_entered (sound.range id (by simp)).2 later

end Traversal

/-- In an ordered arena the loop over a stack ends within as many turns as there are nodes. What it
has visited then is what is found inside the node, which is what follows its children in document
order, and nothing twice. -/
theorem descendants_preorder (ordered : arena.Ordered) {id : NodeId} {node : Node}
    (here : arena.node? id = some node) (descend : Node → Bool) :
    Traversal.run arena descend arena.size ⟨[], node.children.reverse⟩
        = ⟨arena.descendants descend node, []⟩ ∧
      (∀ visited, Preorder arena descend node.children visited ↔
        visited = arena.descendants descend node) ∧
      (arena.descendants descend node).Nodup := by
  have sound := Traversal.sound_children ordered here
  -- Every node is on the stack at most once, so the stack is empty after as many steps.
  have ends := sound.stack_run ordered descend (n := arena.size) (by simp)
  have visits := Traversal.visited_run arena descend arena.size ⟨[], node.children.reverse⟩
  have walked := sound.preorder ordered ends
  have distinct := (sound.after ordered descend arena.size).nodup
  rw [List.nil_append, List.reverse_reverse] at visits
  rw [List.reverse_reverse] at walked
  rw [visits, ends, List.append_nil] at distinct
  refine ⟨?_, ?_, distinct⟩
  · exact congrArg₂ Traversal.mk visits ends
  · intro visited
    constructor
    · intro other
      exact other.unique walked
    · rintro rfl
      exact walked

/-- A form with a radio group, inside of which nothing is visited, and with a place for errors. -/
theorem descendants_preorder_form :
    let node (kind : TagKind) (parent : Option NodeId) (children : List NodeId) : Node :=
      { head := ⟨"form", "tag", .empty, ⟨"t", 1, 1⟩⟩, kind, parent, children }
    let form := node (.form []) none [1, 3]
    let arena : Arena := ⟨#[form, node .radio (some 0) [2], node (.text .text) (some 1) [],
      node .errors (some 0) [4], node (.text .text) (some 3) []]⟩
    let descend (node : Node) : Bool := !node.kind.isValueTag
    arena.Ordered ∧ Traversal.run arena descend arena.size ⟨[], [3, 1]⟩ = ⟨[1, 3, 4], []⟩ ∧
      Preorder arena descend [1, 3] [1, 3, 4] := by
  intro node form arena descend
  have ordered : arena.Ordered := by
    refine ⟨fun id node here => ?_, by decide⟩
    have bound : id < 5 := (Array.getElem?_eq_some_iff.mp here).1
    interval_cases id <;> cases here <;> decide
  have here : arena.node? 0 = some form := rfl
  obtain ⟨ends, walks, -⟩ := descendants_preorder ordered here descend
  have visited : arena.descendants descend form = [1, 3, 4] := rfl
  rw [visited] at ends walks
  exact ⟨ordered, ends, (walks _).mpr rfl⟩

end Stencil.Arena
