import Stencil.Proofs.Arena
import Stencil.Proofs.Tag.Init

/-!
# Links between tags

A tag names the tag it is in, and lists those in it that are not left out. Most steps of
a compile leave these links alone; the opening of a tag adds some.
-/
namespace Stencil.Arena

/-- The tags in a tag that are not left out. -/
def childrenOf (arena : Arena) (id : NodeId) : List NodeId :=
  ((arena.node? id).map Node.children).getD []

/-- The outermost tag is in no other. Every other tag is in one that was opened before
it, and a tag lists tags in it only, in the order they were opened. -/
structure Linked (arena : Arena) : Prop where
  nonempty : 0 < arena.size
  root : arena.parent? 0 = none
  parents : ∀ id, 0 < id → id < arena.size → ∃ parent, arena.parent? id = some parent ∧ parent < id
  ascending : ∀ id, (arena.childrenOf id).Pairwise (· < ·)
  children : ∀ id, ∀ child ∈ arena.childrenOf id, arena.parent? child = some id

/-- The same tags with the same links. -/
structure SameLinks (arena arena' : Arena) : Prop where
  size : arena.size = arena'.size
  parent : ∀ id, arena.parent? id = arena'.parent? id
  children : ∀ id, arena.childrenOf id = arena'.childrenOf id

variable {arena arena' : Arena} {id parent child : NodeId} {node : Node} {f : Node → Node}

theorem SameLinks.refl (arena : Arena) : arena.SameLinks arena :=
  ⟨rfl, fun _ => rfl, fun _ => rfl⟩

theorem SameLinks.trans {arena'' : Arena} (first : arena.SameLinks arena')
    (second : arena'.SameLinks arena'') : arena.SameLinks arena'' where
  size := first.size.trans second.size
  parent id := (first.parent id).trans (second.parent id)
  children id := (first.children id).trans (second.children id)

/-- A change to a node that is not about its links. -/
theorem sameLinks_update (arena : Arena) (id : NodeId)
    (keeps : ∀ node, (f node).parent = node.parent ∧ (f node).children = node.children) :
    (arena.update id f).SameLinks arena where
  size := size_update _ _ _
  parent other := by
    rw [parent?, parent?, node?_update]
    split
    · cases arena.node? other with
      | none => rfl
      | some node => exact (keeps node).1
    · rfl
  children other := by
    rw [childrenOf, childrenOf, node?_update]
    split
    · cases arena.node? other with
      | none => rfl
      | some node => exact (keeps node).2
    · rfl

theorem sameLinks_withForm (opening : Opening) (change : Option TagKind) :
    (opening.withForm change).SameLinks opening.arena := by
  cases change with
  | none => exact .refl _
  | some kind =>
    cases form : opening.form? with
    | none =>
      rw [Opening.withForm_of_none form]
      exact .refl _
    | some around =>
      rw [Opening.withForm_of_some form]
      exact sameLinks_update _ _ fun _ => ⟨rfl, rfl⟩

theorem Linked.congr (linked : arena.Linked) (same : arena'.SameLinks arena) : arena'.Linked where
  nonempty := same.size ▸ linked.nonempty
  root := (same.parent 0).trans linked.root
  parents id above below := by
    rw [same.parent]
    exact linked.parents id above (same.size ▸ below)
  ascending id := by
    rw [same.children]
    exact linked.ascending id
  children id := by
    rw [same.children]
    intro child member
    rw [same.parent]
    exact linked.children id child member

private theorem lt_size_of_parent? (named : arena.parent? id = some parent) : id < arena.size := by
  obtain ⟨node, here, -⟩ := Option.bind_eq_some_iff.mp named
  exact lt_size_of_node? here

theorem Linked.child_lt_size (linked : arena.Linked) (member : child ∈ arena.childrenOf id) :
    child < arena.size :=
  lt_size_of_parent? (linked.children id child member)

/-- No tag is listed twice. -/
theorem Linked.disjoint (linked : arena.Linked) {other : NodeId}
    (here : child ∈ arena.childrenOf id) (there : child ∈ arena.childrenOf other) : id = other := by
  have first := linked.children id child here
  have second := linked.children other child there
  exact Option.some.inj (first.symm.trans second)

theorem parent?_push (arena : Arena) (node : Node) (id : NodeId) :
    (arena.push node).parent? id = if id = arena.size then node.parent else arena.parent? id := by
  rw [parent?, parent?, node?_push]
  split <;> rfl

theorem childrenOf_push (arena : Arena) (childless : node.children = []) (id : NodeId) :
    (arena.push node).childrenOf id = arena.childrenOf id := by
  rw [childrenOf, childrenOf, node?_push]
  split
  next new =>
    have absent : arena.node? id = none := by
      rw [new]
      exact Array.getElem?_eq_none (Nat.le_refl _)
    rw [absent, Option.map_some, childless]
    rfl
  next => rfl

/-- A new tag, not listed by the one it is in. -/
theorem Linked.push (linked : arena.Linked) (inside : node.parent = some parent)
    (below : parent < arena.size) (childless : node.children = []) : (arena.push node).Linked where
  nonempty := size_push arena node ▸ Nat.succ_pos _
  root := by
    rw [parent?_push, if_neg (Nat.ne_of_lt linked.nonempty)]
    exact linked.root
  parents id above bound := by
    rw [parent?_push]
    split
    next new => exact ⟨parent, inside, new ▸ below⟩
    next old =>
      rw [size_push] at bound
      exact linked.parents id above (Nat.lt_of_le_of_ne (Nat.le_of_lt_succ bound) old)
  ascending id := by
    rw [childrenOf_push arena childless]
    exact linked.ascending id
  children id child member := by
    rw [childrenOf_push arena childless] at member
    rw [parent?_push, if_neg (Nat.ne_of_lt (linked.child_lt_size member))]
    exact linked.children id child member

private theorem parent?_adopt (arena : Arena) (parent child id : NodeId) :
    (arena.adopt parent child).parent? id = arena.parent? id := by
  rw [parent?, parent?, adopt, node?_update]
  split
  · cases arena.node? id <;> rfl
  · rfl

theorem childrenOf_adopt (arena : Arena) (below : parent < arena.size) (child id : NodeId) :
    (arena.adopt parent child).childrenOf id
      = if parent = id then arena.childrenOf id ++ [child] else arena.childrenOf id := by
  rw [childrenOf, childrenOf, adopt, node?_update]
  split
  next here =>
    subst here
    have found : arena.node? parent = some arena.nodes[parent] := Array.getElem?_eq_getElem below
    rw [found]
    rfl
  next => rfl

/-- A tag is listed behind all others in the one it is in. -/
theorem Linked.adopt (linked : arena.Linked) (inside : arena.parent? child = some parent)
    (below : parent < arena.size) (last : ∀ other ∈ arena.childrenOf parent, other < child) :
    (arena.adopt parent child).Linked where
  nonempty := size_adopt arena parent child ▸ linked.nonempty
  root := (parent?_adopt _ _ _ _).trans linked.root
  parents id above bound := by
    rw [parent?_adopt]
    exact linked.parents id above (size_adopt arena parent child ▸ bound)
  ascending id := by
    rw [childrenOf_adopt arena below]
    split
    next here =>
      subst here
      -- The child is newer than any other, so it comes last.
      refine List.pairwise_append.mpr ⟨linked.ascending parent, List.pairwise_singleton _ _, ?_⟩
      intro other member new isNew
      rw [List.mem_singleton.mp isNew]
      exact last other member
    next => exact linked.ascending id
  children id other member := by
    rw [parent?_adopt]
    rw [childrenOf_adopt arena below] at member
    split at member
    next here =>
      rcases List.mem_append.mp member with old | new
      · exact linked.children id other old
      · rw [List.mem_singleton.mp new, inside, here]
    next => exact linked.children id other member

end Stencil.Arena
