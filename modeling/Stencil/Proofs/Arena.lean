import Stencil.Arena

/-!
# Looking up nodes

What the operations on an arena do to the node under a number.
-/
namespace Stencil.Arena

@[simp] theorem size_push (arena : Arena) (node : Node) : (arena.push node).size = arena.size + 1 :=
  Array.size_push _

@[simp] theorem size_update (arena : Arena) (id : NodeId) (f : Node → Node) :
    (arena.update id f).size = arena.size :=
  Array.size_modify

@[simp] theorem size_adopt (arena : Arena) (parent child : NodeId) :
    (arena.adopt parent child).size = arena.size :=
  size_update _ _ _

theorem node?_push (arena : Arena) (node : Node) (id : NodeId) :
    (arena.push node).node? id = if id = arena.size then some node else arena.node? id :=
  Array.getElem?_push

theorem node?_update (arena : Arena) (id : NodeId) (f : Node → Node) (other : NodeId) :
    (arena.update id f).node? other
      = if id = other then (arena.node? other).map f else arena.node? other :=
  Array.getElem?_modify

theorem node?_push_of_lt {arena : Arena} {node : Node} {id : NodeId} (below : id < arena.size) :
    (arena.push node).node? id = arena.node? id := by
  rw [node?_push, if_neg (Nat.ne_of_lt below)]

theorem node?_push_size (arena : Arena) (node : Node) :
    (arena.push node).node? arena.size = some node := by
  rw [node?_push, if_pos rfl]

theorem node?_update_of_lt {arena : Arena} {id other : NodeId} {f : Node → Node}
    (before : id < other) : (arena.update id f).node? other = arena.node? other := by
  rw [node?_update, if_neg (Nat.ne_of_lt before)]

theorem node?_update_of_gt {arena : Arena} {id other : NodeId} {f : Node → Node}
    (behind : other < id) : (arena.update id f).node? other = arena.node? other := by
  rw [node?_update, if_neg (Nat.ne_of_gt behind)]

theorem node?_update_self {arena : Arena} {id : NodeId} {f : Node → Node} :
    (arena.update id f).node? id = (arena.node? id).map f := by
  rw [node?_update, if_pos rfl]

theorem lt_size_of_node? {arena : Arena} {id : NodeId} {node : Node}
    (here : arena.node? id = some node) : id < arena.size :=
  (Array.getElem?_eq_some_iff.mp here).1

end Stencil.Arena
