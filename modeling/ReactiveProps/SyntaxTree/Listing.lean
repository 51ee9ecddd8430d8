import ReactiveProps.SyntaxTree.Node

/-!
# Trees as flat listings

A listing names the nodes of a tree in preorder, each with the number of its children. Read from
the last row to the first, every row finds its children waiting, leftmost first.
-/
namespace ReactiveProps.SyntaxTree

structure Row where
  kind : Kind
  named : Bool
  field : Option Field
  span : Span
  arity : Nat
  deriving DecidableEq, Repr

/-- A parsed module; `hasErrors` when the parser had to skip or invent tokens. -/
structure Parse where
  root : Node
  hasErrors : Bool

namespace Row

/-- Takes the row's children from the trees that follow it and puts the finished node in front. -/
def plant (row : Row) (id : Nat) (following : List Node) : Option (List Node) :=
  let children := following.take row.arity
  if children.length = row.arity then
    some (⟨id, row.kind, row.named, row.field, row.span, children⟩ :: following.drop row.arity)
  else
    none

/-- The trees listed from the given index on; none if a row asks for more children than follow. -/
def forest? : Nat → List Row → Option (List Node)
  | _, [] => some []
  | id, row :: rest => (forest? (id + 1) rest).bind (row.plant id)

end Row

/-- The tree that a listing describes, if it describes exactly one. -/
def Node.ofRows? (rows : List Row) : Option Node :=
  match Row.forest? 0 rows with
  | some [root] => some root
  | _ => none

end ReactiveProps.SyntaxTree
