import ReactiveProps.SyntaxTree.Node

/-!
# Nodes with their surroundings

A site is a node together with its parent and the siblings before it, so that one can look up and
to the left as well as down. `Site.walk` visits a subtree with a stack of pending sites, and
`map_node_walk` says that the nodes come in preorder.
-/
namespace ReactiveProps.SyntaxTree

structure Site where
  node : Node
  parent : Option Node
  /-- The siblings before the node, nearest first. -/
  earlier : List Node

namespace Site

/-- A node seen on its own, without parent or siblings. -/
def root (node : Node) : Site := ⟨node, none, []⟩

def childrenFrom (parent : Node) (earlier : List Node) : List Node → List Site
  | [] => []
  | child :: rest => ⟨child, some parent, earlier⟩ :: childrenFrom parent (child :: earlier) rest

def children (site : Site) : List Site :=
  childrenFrom site.node [] site.node.children

/-- The named children that are not comments. -/
def items (site : Site) : List Site :=
  site.children.filter (·.node.isItem)

/-- The child with the given label. -/
def child? (site : Site) (field : Field) : Option Site :=
  site.children.find? fun child => child.node.field == some field

/-- The siblings before the node that are named, nearest first. -/
def earlierNamed (site : Site) : List Node :=
  site.earlier.filter (·.named)

theorem map_node_childrenFrom (parent : Node) (earlier nodes : List Node) :
    (childrenFrom parent earlier nodes).map node = nodes := by
  induction nodes generalizing earlier with
  | nil => rfl
  | cons child rest ih => simp [childrenFrom, ih]

@[simp] theorem map_node_children (site : Site) : site.children.map node = site.node.children :=
  map_node_childrenFrom _ _ _

/-- The number of nodes below the sites of a stack, the sites included. -/
def pending (stack : List Site) : Nat :=
  Node.sizeAll (stack.map node)

/-- Visits the subtrees of a stack of sites, first to last. A visited site leaves its children on
top of the stack, the leftmost uppermost. -/
def walkAll : List Site → List Site
  | [] => []
  | site :: rest => site :: walkAll (site.children ++ rest)
termination_by stack => pending stack
decreasing_by
  simp [pending, Node.sizeAll, Node.sizeAll_append, Node.size_eq]

/-- A site and the sites below it. -/
def walk (site : Site) : List Site := walkAll [site]

theorem map_node_walkAll (stack : List Site) :
    (walkAll stack).map node = Node.preorderAll (stack.map node) := by
  fun_induction walkAll stack with
  | case1 => rfl
  | case2 site rest ih =>
    simp [Node.preorderAll, ih, Node.preorder_eq, Node.preorderAll_append]

theorem map_node_walk (site : Site) : site.walk.map node = site.node.preorder := by
  simp [walk, map_node_walkAll, Node.preorderAll]

end Site

/-- A node and its descendants, in the order in which the stack visits them. -/
def Node.walk (node : Node) : List Node :=
  (Site.root node).walk.map Site.node

theorem Node.walk_eq_preorder (node : Node) : node.walk = node.preorder :=
  Site.map_node_walk (.root node)

end ReactiveProps.SyntaxTree
