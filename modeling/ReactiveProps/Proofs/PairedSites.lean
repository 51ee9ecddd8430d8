import ReactiveProps.Proofs.Pairing

/-!
# Sites of trees that read the same

Whatever matches the sites of two stacks and is handed down to their children matches the sites that
the two stacks visit. The members of two classes match with the decorators before them if their
bodies do.
-/
namespace ReactiveProps.SyntaxTree

namespace Site

section Walk

variable {S : Site → Site → Prop} {gap : Site → Prop}

/-- A visit keeps what holds between two stacks: gaps have nothing below them. -/
theorem aligned_walkAll (down : ∀ s t, S s t → Aligned S gap s.children t.children)
    (leaf : ∀ s, gap s → s.children = []) {first second : List Site}
    (aligned : Aligned S gap first second) : Aligned S gap (walkAll first) (walkAll second) := by
  -- by the steps of the first walk; the second one waits while a gap is taken off the stack
  fun_induction walkAll first generalizing second with
  | case1 =>
    cases aligned
    rw [walkAll]
    exact .nil
  | case2 site rest ih =>
    cases aligned with
    | @cons _ other _ others head tail =>
      rw [walkAll]
      exact .cons head (ih ((down site other head).append tail))
    | skip head tail =>
      refine .skip head (ih ?_)
      rw [leaf site head]
      exact tail

theorem walkAll_append (first second : List Site) :
    walkAll (first ++ second) = walkAll first ++ walkAll second := by
  fun_induction walkAll first with
  | case1 => rfl
  | case2 site rest ih => rw [List.cons_append, walkAll, ← List.append_assoc, ih, List.cons_append]

end Walk

theorem children_eq_nil {site : Site} (leaf : site.node.children = []) : site.children = [] := by
  rw [children, leaf]
  rfl

theorem map_node_child? (site : Site) (field : Field) :
    (site.child? field).map node = site.node.child? field := by
  rw [Node.child?, ← map_node_children, List.find?_map]
  rfl

end Site

namespace Pairing

variable {left right : Source} (P : Pairing left right)

/-- Nodes that match, behind siblings that match; `up` says what the parents have in common. -/
structure SameSite (M : Node → Node → Prop) (up : Option Node → Option Node → Prop)
    (a b : Site) : Prop where
  node : M a.node b.node
  parent : up a.parent b.parent
  earlier : Aligned M P.gap a.earlier b.earlier

/-- A way to match the members of two classes: at least as their pairs, at most by outline. -/
structure Covers (M : Node → Node → Prop) : Prop where
  of_pairs : ∀ {a b}, P.pairs a b → M a b
  outline : ∀ {a b}, M a b → P.Outline P.gap a b
  decorator : ∀ {a b}, M a b → a.kind = .decorator → P.pairs a b

theorem covers_pairs : P.Covers P.pairs where
  of_pairs := id
  outline := P.outline
  decorator := fun paired _ => paired

variable {P} {M : Node → Node → Prop} {up : Option Node → Option Node → Prop}

theorem aligned_childrenFrom {parent parent' : Node} {earlier earlier' nodes nodes' : List Node}
    (above : up (some parent) (some parent')) (before : Aligned M P.gap earlier earlier')
    (matched : Aligned M P.gap nodes nodes') :
    Aligned (P.SameSite M up) (fun site => P.gap site.node)
      (Site.childrenFrom parent earlier nodes) (Site.childrenFrom parent' earlier' nodes') := by
  induction matched generalizing earlier earlier' with
  | nil => exact .nil
  | cons head _ ih => exact .cons ⟨head, above, before⟩ (ih (.cons head before))
  | skip head _ ih => exact .skip head (ih (.skip head before))

theorem aligned_children {a b : Site} (above : up (some a.node) (some b.node))
    (matched : Aligned M P.gap a.node.children b.node.children) :
    Aligned (P.SameSite M up) (fun site => P.gap site.node) a.children b.children :=
  aligned_childrenFrom above .nil matched

theorem forall₂_classMembers {cls cls' : Node} (covers : P.Covers M)
    (above : ∀ x y, up (some x) (some y))
    (bodies : Option.Rel (fun x y => Aligned M P.gap x.children y.children) (cls.child? .body)
      (cls'.child? .body)) :
    List.Forall₂ (P.SameSite M up) cls.classMembers cls'.classMembers := by
  have first : ((Site.root cls).child? .body).map Site.node = cls.child? .body :=
    Site.map_node_child? (.root cls) .body
  have second : ((Site.root cls').child? .body).map Site.node = cls'.child? .body :=
    Site.map_node_child? (.root cls') .body
  rw [← first, ← second] at bodies
  have bodies := rel_of_map bodies
  unfold Node.classMembers Site.classMembers
  generalize (Site.root cls).child? .body = x, (Site.root cls').child? .body = y at bodies ⊢
  cases bodies with
  | none => exact .nil
  | @some body body' matched =>
    have children := aligned_children (above body.node body'.node) matched
    have items := children.forall₂_filter (p := (·.node.isItem)) (q := (·.node.isItem))
      (fun s t same => by
        rw [Node.isItem, Node.isItem, (covers.outline same.node).kind_eq,
          (covers.outline same.node).named_eq])
      (fun s gap => P.isItem_of_gap gap)
    have members := List.rel_filter (p := (·.node.kind != .decorator))
      (q := (·.node.kind != .decorator))
      (fun s t same => by simp only [(covers.outline same.1.node).kind_eq]) items
    exact members.imp fun _ _ h => h.1

theorem forall₂_precedingDecorators (covers : P.Covers M) {a b : Site}
    (same : P.SameSite M up a b) :
    List.Forall₂ P.pairs a.precedingDecorators b.precedingDecorators := by
  have named := same.earlier.filter (p := (·.named)) (q := (·.named))
    fun _ _ h => (covers.outline h).named_eq
  have run := named.takeWhile
    (p := fun sibling => sibling.kind == .decorator || sibling.kind == .comment)
    (q := fun sibling => sibling.kind == .decorator || sibling.kind == .comment)
    (fun _ _ h => by rw [(covers.outline h).kind_eq])
    (fun _ gap => by rw [P.comment_of_gap gap]; rfl)
  have chosen := run.forall₂_filter (p := (·.kind == .decorator)) (q := (·.kind == .decorator))
    (fun _ _ h => by rw [(covers.outline h).kind_eq])
    (fun _ gap => by rw [P.comment_of_gap gap]; rfl)
  refine List.rel_reverse (chosen.imp fun x y h => ?_)
  exact covers.decorator h.1 (beq_iff_eq.mp h.2)

theorem forall₂_memberDecorators (covers : P.Covers M) {a b : Site}
    (same : P.SameSite M up a b) :
    List.Forall₂ P.pairs a.memberDecorators b.memberDecorators := by
  have outline := covers.outline same.node
  have own := outline.forall₂_decorators fun _ gap => by rw [P.comment_of_gap gap]; decide
  unfold Site.memberDecorators
  rw [outline.kind_eq]
  split
  · exact List.rel_append (forall₂_precedingDecorators covers same) own
  · exact own

end Pairing

end ReactiveProps.SyntaxTree
