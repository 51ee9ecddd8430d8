import ReactiveProps.SyntaxTree.Kind

/-!
# Syntax trees

A node knows its kind, its byte range and its children, named and anonymous alike. `preorder` is
the list of a node and its descendants, each node before its children.
-/
namespace ReactiveProps.SyntaxTree

/-- Byte offsets into the source; `stop` is the first byte after the node. -/
structure Span where
  start : Nat
  stop : Nat
  deriving DecidableEq, Repr

/-- `id` is the position of the node in the preorder of its whole tree. -/
structure Node where
  id : Nat
  kind : Kind
  named : Bool
  field : Option Field
  span : Span
  children : List Node
  deriving Repr

namespace Node

instance : Inhabited Node := ⟨⟨0, .other "", false, none, ⟨0, 0⟩, []⟩⟩

/-- The child with the given label. -/
def child? (node : Node) (field : Field) : Option Node :=
  node.children.find? fun child => child.field == some field

def namedChildren (node : Node) : List Node :=
  node.children.filter (·.named)

/-- Whether a child counts as content: named and not a comment. -/
def isItem (node : Node) : Bool :=
  node.named && node.kind != .comment

/-- The statements, entries, arguments or members inside a node: its named children without
comments. -/
def items (node : Node) : List Node :=
  node.children.filter isItem

/-- The items of the child with the given label; none if there is no such child. -/
def itemsOf (node : Node) (field : Field) : List Node :=
  ((node.child? field).map items).getD []

/-- The anonymous and named children that are decorators. -/
def decorators (node : Node) : List Node :=
  node.children.filter fun child => child.kind == .decorator

mutual

def preorder : Node → List Node
  | ⟨id, kind, named, field, span, children⟩ =>
    ⟨id, kind, named, field, span, children⟩ :: preorderAll children

def preorderAll : List Node → List Node
  | [] => []
  | node :: rest => node.preorder ++ preorderAll rest

end

mutual

/-- The number of nodes in a tree. -/
def size : Node → Nat
  | ⟨_, _, _, _, _, children⟩ => sizeAll children + 1

def sizeAll : List Node → Nat
  | [] => 0
  | node :: rest => node.size + sizeAll rest

end

theorem preorder_eq (node : Node) : node.preorder = node :: preorderAll node.children := by
  cases node; rw [preorder]

theorem preorderAll_append (xs ys : List Node) :
    preorderAll (xs ++ ys) = preorderAll xs ++ preorderAll ys := by
  induction xs with
  | nil => simp [preorderAll]
  | cons x xs ih => simp [preorderAll, ih]

theorem size_eq (node : Node) : node.size = sizeAll node.children + 1 := by
  cases node; rw [size]

theorem sizeAll_append (xs ys : List Node) : sizeAll (xs ++ ys) = sizeAll xs + sizeAll ys := by
  induction xs with
  | nil => simp [sizeAll]
  | cons x xs ih => simp [sizeAll, ih, Nat.add_assoc]

end Node

end ReactiveProps.SyntaxTree
