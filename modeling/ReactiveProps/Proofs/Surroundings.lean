import Mathlib.Data.List.Nodup
import Mathlib.Data.List.Pairwise
import Mathlib.Data.List.Perm.Basic
import ReactiveProps.Element.Discovery
import ReactiveProps.Proofs.Comments
import ReactiveProps.Proofs.PairedTypes

/-!
# What a node stands in

In a tree whose nodes all have numbers of their own a node has one parent, and so it has at most one
nearest class body around it.
-/
namespace ReactiveProps.SyntaxTree

namespace Node

def Distinct (root : Node) : Prop := (root.preorder.map (·.id)).Nodup

instance (root : Node) : Decidable root.Distinct :=
  inferInstanceAs (Decidable (root.preorder.map (·.id)).Nodup)

theorem preorderAll_eq_flatMap (nodes : List Node) : preorderAll nodes = nodes.flatMap preorder := by
  induction nodes with
  | nil => rfl
  | cons node rest ih => rw [preorderAll, ih, List.flatMap_cons]

/-- The children of all nodes of a tree are the nodes of the tree without its root. -/
theorem flatMap_children_preorder_perm (root : Node) :
    (root.preorder.flatMap children).Perm (preorderAll root.children) := by
  induction root using Node.induction with
  | step node ih =>
    have below : ((preorderAll node.children).flatMap children).Perm
        (node.children.flatMap fun child => preorderAll child.children) := by
      rw [preorderAll_eq_flatMap, List.flatMap_assoc]
      exact List.Perm.flatMap_left _ ih
    have joined : (node.children ++
        node.children.flatMap fun child => preorderAll child.children).Perm
          (preorderAll node.children) := by
      have split := List.flatMap_append_perm node.children (fun child => [child])
        fun child => preorderAll child.children
      rw [List.flatMap_singleton'] at split
      refine split.trans (.of_eq ?_)
      rw [preorderAll_eq_flatMap]
      refine List.flatMap_congr fun child _ => ?_
      rw [preorder_eq, List.singleton_append]
    rw [preorder_eq, List.flatMap_cons]
    exact (below.append_left node.children).trans joined

variable {root : Node} (distinct : root.Distinct)

include distinct

theorem eq_of_id_eq {node other : Node} (inside : node ∈ root.preorder)
    (insideToo : other ∈ root.preorder) (same : node.id = other.id) : node = other :=
  List.inj_on_of_nodup_map distinct inside insideToo same

theorem parent_unique {parent other child : Node} (inside : parent ∈ root.preorder)
    (insideToo : other ∈ root.preorder) (below : child ∈ parent.children)
    (belowToo : child ∈ other.children) : parent = other := by
  have once : (root.preorder.flatMap children).Nodup := by
    have rest : (preorderAll root.children).Nodup := by
      have all := List.Nodup.of_map _ distinct
      rw [preorder_eq] at all
      exact (List.nodup_cons.mp all).2
    exact (flatMap_children_preorder_perm root).nodup_iff.mpr rest
  by_contra differ
  have symmetric : Std.Symm (Function.onFun List.Disjoint children) :=
    ⟨fun _ _ apart _ inside insideToo => apart insideToo inside⟩
  have apart := (List.nodup_flatMap.mp once).2.forall inside insideToo differ
  exact apart below belowToo

end Node

end ReactiveProps.SyntaxTree

namespace ReactiveProps.Element

open SyntaxTree

/-- A tree as the grammar gives it, as far as it matters where a class ends: every node stands at one
place, and the bodies of classes and of methods are nodes of their own kinds. -/
structure WellFormed (root : Node) : Prop where
  distinct : root.Distinct
  classBodies : ∀ cls ∈ classesAt (.root root), ∀ body ∈ cls.node.child? .body,
    body.kind = .other "class_body"
  methodBodies : ∀ method ∈ root.preorder, method.kind = .methodDefinition →
    ∀ body ∈ method.child? .body, body.kind = .other "statement_block"

instance (root : Node) : Decidable (WellFormed root) :=
  decidable_of_iff (root.Distinct ∧
      (∀ cls ∈ classesAt (.root root), ∀ body ∈ cls.node.child? .body,
        body.kind = .other "class_body") ∧
      ∀ method ∈ root.preorder, method.kind = .methodDefinition →
        ∀ body ∈ method.child? .body, body.kind = .other "statement_block")
    ⟨fun ⟨distinct, classBodies, methodBodies⟩ => ⟨distinct, classBodies, methodBodies⟩,
      fun ⟨distinct, classBodies, methodBodies⟩ => ⟨distinct, classBodies, methodBodies⟩⟩

def IsClassBody (root body : Node) : Prop :=
  ∃ cls ∈ classesAt (.root root), cls.node.child? .body = some body

/-- The class body right around a node: its parent, if that is one, else that of its parent. -/
inductive NearestBody (root : Node) : Node → Node → Prop
  | inside {node body : Node} (isBody : IsClassBody root body) (below : node ∈ body.children) :
      NearestBody root node body
  | through {node parent body : Node} (noBody : ¬ IsClassBody root parent)
      (below : node ∈ parent.children) (outer : NearestBody root parent body) :
      NearestBody root node body

variable {root : Node}

theorem mem_preorder_of_mem_classesAt {cls : Site} (listed : cls ∈ classesAt (.root root)) :
    cls.node ∈ root.preorder := by
  rw [← Node.walk_eq_preorder, Node.walk]
  exact List.mem_map_of_mem (List.mem_filter.mp listed).1

theorem isClass_of_mem_classesAt {cls : Site} (listed : cls ∈ classesAt (.root root)) :
    cls.node.kind.isClass = true := by
  have chosen := (List.mem_filter.mp listed).2
  exact (Bool.and_eq_true_iff.mp chosen).2

theorem mem_children_of_child? {node child : Node} {field : Field}
    (labelled : node.child? field = some child) : child ∈ node.children :=
  List.mem_of_find?_eq_some labelled

theorem IsClassBody.mem {body : Node} (isBody : IsClassBody root body) : body ∈ root.preorder := by
  obtain ⟨cls, listed, labelled⟩ := isBody
  exact Node.mem_preorder_of_child (mem_children_of_child? labelled) root
    (mem_preorder_of_mem_classesAt listed)

theorem NearestBody.mem {node body : Node} (nearest : NearestBody root node body) :
    node ∈ root.preorder := by
  induction nearest with
  | inside isBody below => exact Node.mem_preorder_of_child below root isBody.mem
  | through _ below _ ih => exact Node.mem_preorder_of_child below root ih

section WellFormed

variable (wellFormed : WellFormed root)

include wellFormed

theorem kind_of_isClassBody {body : Node} (isBody : IsClassBody root body) :
    body.kind = .other "class_body" := by
  obtain ⟨cls, listed, labelled⟩ := isBody
  exact wellFormed.classBodies cls listed body labelled

/-- A class body belongs to one class. -/
theorem class_unique {cls other : Site} (listed : cls ∈ classesAt (.root root))
    (listedToo : other ∈ classesAt (.root root)) {body : Node}
    (labelled : cls.node.child? .body = some body)
    (labelledToo : other.node.child? .body = some body) : cls.node = other.node :=
  Node.parent_unique wellFormed.distinct (mem_preorder_of_mem_classesAt listed)
    (mem_preorder_of_mem_classesAt listedToo) (mem_children_of_child? labelled)
    (mem_children_of_child? labelledToo)

/-- Class bodies do not stand right in class bodies. -/
theorem not_isClassBody_of_child {node body : Node} (isBody : IsClassBody root body)
    (below : node ∈ body.children) : ¬ IsClassBody root node := by
  rintro ⟨cls, listed, labelled⟩
  have same : cls.node = body := Node.parent_unique wellFormed.distinct
    (mem_preorder_of_mem_classesAt listed) isBody.mem (mem_children_of_child? labelled) below
  have isClass := isClass_of_mem_classesAt listed
  rw [same, kind_of_isClassBody wellFormed isBody] at isClass
  cases isClass

theorem nearestBody_unique {node body other : Node} (nearest : NearestBody root node body)
    (nearestToo : NearestBody root node other) : body = other := by
  have parents {p q n : Node} (inside : p ∈ root.preorder) (insideToo : q ∈ root.preorder)
      (below : n ∈ p.children) (belowToo : n ∈ q.children) : p = q :=
    Node.parent_unique wellFormed.distinct inside insideToo below belowToo
  induction nearest with
  | inside isBody below =>
    cases nearestToo with
    | inside isBody' below' => exact parents isBody.mem isBody'.mem below below'
    | through noBody below' outer =>
      have same := parents isBody.mem outer.mem below below'
      exact absurd (same ▸ isBody) noBody
  | through noBody below outer ih =>
    cases nearestToo with
    | inside isBody below' =>
      have same := parents outer.mem isBody.mem below below'
      exact absurd (same ▸ isBody) noBody
    | through _ below' outer' =>
      have same := parents outer.mem outer'.mem below below'
      exact ih (same ▸ outer')

/-- What stands in a node that is no class body stands in the same class body as the node. -/
theorem NearestBody.child {parent child body : Node} (nearest : NearestBody root parent body)
    (plain : parent.kind ≠ .other "class_body") (below : child ∈ parent.children) :
    NearestBody root child body :=
  .through (fun isBody => plain (kind_of_isClassBody wellFormed isBody)) below nearest

end WellFormed

end ReactiveProps.Element
