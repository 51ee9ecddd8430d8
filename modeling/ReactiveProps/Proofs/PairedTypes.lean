import Mathlib.Logic.Relation
import ReactiveProps.Proofs.PairedProperties

/-!
# Types read off paired nodes

Paired nodes have the same inferred type if no comment is missing where the inference looks for an
operand. If none is missing at all, the syntactic resolver answers alike for them, and for members
that differ in the bodies of methods only.
-/
namespace ReactiveProps.SyntaxTree.Node

/-- What holds of a node if it holds of its children holds of every node. -/
@[elab_as_elim]
theorem induction {motive : Node → Prop}
    (step : ∀ node, (∀ child ∈ node.children, motive child) → motive node) (node : Node) :
    motive node := by
  refine step node fun child below => ?_
  have smaller : sizeOf child < sizeOf node := by
    have := List.sizeOf_lt_of_mem below
    cases node
    simp only [Node.mk.sizeOf_spec] at this ⊢
    omega
  exact induction step child
termination_by sizeOf node

end ReactiveProps.SyntaxTree.Node

namespace ReactiveProps.Typing

open SyntaxTree Property

variable {left right : Source} {P : Pairing left right}

section Inferences

/-- The first expression has the type of the second, its first child. -/
inductive Wraps : Node → Node → Prop
  | operand {node operand : Node} (kind : node.kind ∈ [.parenthesized, .satisfiesExpression])
      (first : operand ∈ node.namedChildren.head?) : Wraps node operand
  /-- A cast to no type that could be read. -/
  | cast {node operand : Node} (kind : node.kind = .asExpression)
      (targetless : node.namedChildren.length ≠ 2) (first : operand ∈ node.namedChildren.head?) :
      Wraps node operand

inductive Consults : Node → Node → Prop
  | wrapped {node operand : Node} (wraps : Wraps node operand) : Consults node operand
  | element {node operand : Node} (kind : node.kind = .array) (item : operand ∈ node.items) :
      Consults node operand

theorem Wraps.first {node operand : Node} (wraps : Wraps node operand) :
    operand ∈ node.namedChildren.head? := by
  cases wraps with
  | operand _ first => exact first
  | cast _ _ first => exact first

theorem Consults.mem_children {node operand : Node} (consults : Consults node operand) :
    operand ∈ node.children := by
  cases consults with
  | wrapped wraps => exact (List.mem_filter.mp (List.mem_of_mem_head? wraps.first)).1
  | element _ item => exact (List.mem_filter.mp item).1

/-- A gap stands where the operand of the node is expected: first in a node that wraps it, anywhere
in a cast, whose children are counted. -/
def Obstructed (gap : Node → Prop) (node : Node) : Prop :=
  node.kind ∈ [.parenthesized, .satisfiesExpression] ∧ (∃ c ∈ node.namedChildren.head?, gap c) ∨
    node.kind = .asExpression ∧ ∃ c ∈ node.namedChildren, gap c

variable {a b : Node}

/-- A cast to a type has that type, and any other cast has the type of its first operand. -/
theorem castType_alike {xs ys : List Node} :
    List.Forall₂ P.pairs xs ys →
    (xs.length ≠ 2 → xs.head?.map (infer left) = ys.head?.map (infer right)) →
    (match xs with
      | [_, target] => ⟨left.text target, []⟩
      | _ => (xs.head?.map (infer left)).getD ⟨unknown, []⟩ : Inference) =
    (match ys with
      | [_, target] => ⟨right.text target, []⟩
      | _ => (ys.head?.map (infer right)).getD ⟨unknown, []⟩ : Inference) := by
  intro matched first
  cases matched with
  | nil => rfl
  | cons head tail =>
    cases tail with
    | nil => simp only [first nofun]
    | cons target rest =>
      cases rest with
      | nil => simp only [P.text_eq target]
      | cons => simp only [first nofun]

/-- Paired expressions have the same type, unless a gap stands in the way on the first side. -/
theorem infer_eq_of_unobstructed (paired : P.pairs a b)
    (clear : ∀ node, Relation.ReflTransGen Consults a node → ¬ Obstructed P.gap node) :
    infer left a = infer right b := by
  induction a using Node.induction generalizing b with
  | step a ih =>
    have below {x y : Node} (consults : Consults a x) (same : P.pairs x y) :
        infer left x = infer right y :=
      ih x consults.mem_children same fun node reached => clear node (.head consults reached)
    have here := clear a .refl
    have named : Aligned P.pairs P.gap a.namedChildren b.namedChildren :=
      (P.children paired).filter fun _ _ => P.named_eq
    have operand (wraps : ∀ x ∈ a.namedChildren.head?, Wraps a x)
        (solid : ∀ x ∈ a.namedChildren.head?, ¬ P.gap x) :
        a.namedChildren.head?.map (infer left) = b.namedChildren.head?.map (infer right) := by
      have firsts := rel_of_mem (named.rel_head? solid) fun x y first same =>
        below (.wrapped (wraps x first)) same
      exact map_eq_of_rel firsts fun _ _ => id
    have wrapped (kind : a.kind ∈ [.parenthesized, .satisfiesExpression]) :=
      operand (fun _ => .operand kind) fun x first gap => here (.inl ⟨kind, x, first, gap⟩)
    rw [infer_eq left a, infer_eq right b, ← P.kind_eq paired]
    dsimp only
    cases literalType? a.kind with
    | some type => rfl
    | none =>
      cases kind : a.kind with
      | number => simp only [P.text_eq paired]
      | parenthesized => simp only [wrapped (by simp [kind])]
      | satisfiesExpression => simp only [wrapped (by simp [kind])]
      | array =>
        have items : a.items.map (infer left) = b.items.map (infer right) :=
          map_eq_of_forall₂ (forall₂_mem (P.forall₂_items paired)) fun x y h =>
            below (.element kind h.1) h.2
        simp only [items]
      | newExpression =>
        have maker := map_eq_of_rel (P.rel_child? paired .constructor) fun _ _ => P.text_eq
        simp only [maker]
      | asExpression =>
        have solid (x : Node) (listed : x ∈ a.namedChildren) : ¬ P.gap x := fun gap =>
          here (.inr ⟨kind, x, listed, gap⟩)
        have matched : List.Forall₂ P.pairs a.namedChildren b.namedChildren :=
          (named.mem.forall₂ fun x h => solid x h.1 h.2).imp fun _ _ h => h.2
        refine castType_alike matched fun targetless => ?_
        exact operand (fun _ => .cast kind targetless) fun x first =>
          solid x (List.mem_of_mem_head? first)
      | unaryExpression =>
        have operator := bind_eq_of_rel (P.rel_child? paired .operator)
          (f := fun operator => operatorType? (left.text operator))
          (g := fun operator => operatorType? (right.text operator))
          fun _ _ same => by rw [P.text_eq same]
        simp only [operator]
      | _ => rfl

theorem infer_eq_of_paired (full : ∀ c, ¬ P.gap c) (paired : P.pairs a b) :
    infer left a = infer right b := by
  refine infer_eq_of_unobstructed paired fun node _ obstructed => ?_
  obtain ⟨-, c, -, gap⟩ | ⟨-, c, -, gap⟩ := obstructed
  · exact full c gap
  · exact full c gap

end Inferences

variable (full : ∀ c, ¬ P.gap c) {a b : Node}

section Answers

variable {M : Node → Node → Prop}

/-- The syntactic resolver answers alike if it finds the same annotation or infers the same type. -/
theorem sameAnswer_syntactic (annotations : annotationOf? left a = annotationOf? right b)
    (inferences : (inferenceOf left a).text = (inferenceOf right b).text) :
    SameAnswer M (syntactic left a) (syntactic right b) := by
  unfold SameAnswer syntactic
  rw [annotations]
  cases annotationOf? right b with
  | some text => exact .ok rfl
  | none =>
    refine .ok ?_
    simp only [TypeDescriptor.unnumbered, inferences]

theorem annotationText?_eq (paired : P.pairs a b) :
    annotationText? left a = annotationText? right b :=
  map_eq_of_rel (rel_head? (P.forall₂_items paired)) fun _ _ => P.text_eq

variable {gap : Node → Prop} (alike : P.Outline gap a b) (trims : ∀ c, gap c → c.IsTrimming)

include alike trims

theorem annotationOf?_eq : annotationOf? left a = annotationOf? right b := by
  have type := bind_eq_of_rel (alike.rel_child? trims .type (by decide))
    fun _ _ => annotationText?_eq
  have returned := bind_eq_of_rel (alike.rel_child? trims .returnType (by decide))
    fun _ _ => annotationText?_eq
  rw [annotationOf?, annotationOf?, alike.kind_eq, type, returned]

include full

/-- Members that differ in the bodies of methods, in comments and in decorators only have the same
type. -/
theorem sameAnswer_member (member : a.kind.isField ∨ a.kind = .methodDefinition) :
    SameAnswer M (syntactic left a) (syntactic right b) := by
  refine sameAnswer_syntactic (annotationOf?_eq alike trims) ?_
  have value := map_eq_of_rel (alike.rel_child? trims .value (by decide))
    fun _ _ => infer_eq_of_paired full
  rcases member with field | method
  · rw [inferenceOf, inferenceOf, ← alike.kind_eq, if_pos field, if_pos field, value]
  · rw [inferenceOf, inferenceOf, ← alike.kind_eq, method]
    rfl

omit alike trims in
theorem sameAnswer_paired (paired : P.pairs a b) :
    SameAnswer M (syntactic left a) (syntactic right b) := by
  have outline := P.outline paired
  have trims : ∀ c, P.gap c → c.IsTrimming := fun _ => P.isTrimming_of_gap
  refine sameAnswer_syntactic (annotationOf?_eq outline trims) ?_
  have value := map_eq_of_rel (P.rel_child? paired .value) fun _ _ => infer_eq_of_paired full
  rw [inferenceOf, inferenceOf, P.kind_eq paired, value, infer_eq_of_paired full paired]

end Answers

end ReactiveProps.Typing
