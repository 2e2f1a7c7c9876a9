import Stencil.Fragment
import Stencil.Tag.Kind

/-!
# The tags of a template

Tags are kept in the order they were opened, so the index of a tag is above that of
the tag it is in. Walking up from a tag therefore ends, and walking down visits no
more tags than there are.
-/
namespace Stencil

abbrev NodeId := Nat

structure Node where
  head : Head
  kind : TagKind
  /-- The tag it is in. -/
  parent : Option NodeId
  /-- What its closed subtags and the text in it became. -/
  body : Fragment := []
  /-- In document order. -/
  children : List NodeId := []
  /-- Whether its subtree is left out. -/
  skipping : Bool := false

structure Arena where
  nodes : Array Node

namespace Arena

def empty : Arena := ⟨#[]⟩

def size (arena : Arena) : Nat := arena.nodes.size

def node? (arena : Arena) (id : NodeId) : Option Node := arena.nodes[id]?

def push (arena : Arena) (node : Node) : Arena := ⟨arena.nodes.push node⟩

def update (arena : Arena) (id : NodeId) (f : Node → Node) : Arena := ⟨arena.nodes.modify id f⟩

/-- Make a node the last child of another one. -/
def adopt (arena : Arena) (parent child : NodeId) : Arena :=
  arena.update parent fun node => { node with children := node.children ++ [child] }

/-- The node a node is in. -/
def parent? (arena : Arena) (id : NodeId) : Option NodeId :=
  (arena.node? id).bind Node.parent

/-- A node and all nodes around it, from the inside out. -/
def selfAndAncestors (arena : Arena) (id : NodeId) : List NodeId :=
  match arena.parent? id with
  | none => [id]
  | some parent => if parent < id then id :: arena.selfAndAncestors parent else [id]
  termination_by id

def ancestors (arena : Arena) : Option NodeId → List NodeId
  | none => []
  | some id => arena.selfAndAncestors id

/-- The first of a node and those around it that passes a test. -/
def findAncestor? (arena : Arena) (start : Option NodeId) (test : Node → Bool) : Option NodeId :=
  (arena.ancestors start).find? fun id => (arena.node? id).any test

/-- Visit nodes in order, each followed by its children if the test says so. The
number bounds how many are visited. -/
def visit (arena : Arena) (descend : Node → Bool) : Nat → List NodeId → List NodeId
  | 0, _ => []
  | _ + 1, [] => []
  | n + 1, id :: todo =>
    let inner := match arena.node? id with
      | some node => if descend node then node.children else []
      | none => []
    id :: visit arena descend n (inner ++ todo)

/-- The nodes inside a node in document order, without those inside of nodes that
fail the test. -/
def descendants (arena : Arena) (descend : Node → Bool) (node : Node) : List NodeId :=
  arena.visit descend arena.size node.children

end Arena

end Stencil
