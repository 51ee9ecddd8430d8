import ReactiveProps.Proofs.Alignment
import ReactiveProps.SyntaxTree.Shape

/-!
# Nodes that read the same

A `Pairing` matches nodes of two trees, each with a source of its own, that read the same: by kind,
label and text, and by their children from left to right. Comments of the first tree may be missing
in the second. `Outline` asks for less: the bodies of methods may differ, and comments and
decorators may be missing.
-/
namespace ReactiveProps.SyntaxTree

variable {left right : Source}

structure Pairing (left right : Source) where
  pairs : Node → Node → Prop
  /-- A node of the first tree that the second may lack. -/
  gap : Node → Prop
  kind_eq : ∀ {a b}, pairs a b → a.kind = b.kind
  named_eq : ∀ {a b}, pairs a b → a.named = b.named
  field_eq : ∀ {a b}, pairs a b → a.field = b.field
  text_eq : ∀ {a b}, pairs a b → left.text a = right.text b
  children : ∀ {a b}, pairs a b → Aligned pairs gap a.children b.children
  comment_of_gap : ∀ {c}, gap c → c.kind = .comment
  unlabelled_of_gap : ∀ {c}, gap c → c.field = none
  leaf_of_gap : ∀ {c}, gap c → c.children = []

def Node.IsBody (node : Node) : Prop :=
  node.field = some .body ∧ node.kind = .other "statement_block"

def Node.IsTrimming (node : Node) : Prop :=
  node.field = none ∧ (node.kind = .comment ∨ node.kind = .decorator)

namespace Pairing

variable (P : Pairing left right)

theorem unquoted_eq {a b : Node} (paired : P.pairs a b) : left.unquoted a = right.unquoted b := by
  rw [Source.unquoted, Source.unquoted, P.text_eq paired]

theorem isUndefined_eq {a b : Node} (paired : P.pairs a b) :
    a.isUndefined left = b.isUndefined right := by
  rw [Node.isUndefined, Node.isUndefined, P.kind_eq paired, P.text_eq paired]

theorem isItem_eq {a b : Node} (paired : P.pairs a b) : a.isItem = b.isItem := by
  rw [Node.isItem, Node.isItem, P.kind_eq paired, P.named_eq paired]

theorem isItem_of_gap {c : Node} (gap : P.gap c) : c.isItem = false := by
  simp [Node.isItem, P.comment_of_gap gap]

theorem rel_child? {a b : Node} (paired : P.pairs a b) (field : Field) :
    Option.Rel P.pairs (a.child? field) (b.child? field) := by
  have found := (P.children paired).rel_find? (p := fun child => child.field == some field)
    (q := fun child => child.field == some field)
    (fun x y same => by rw [P.field_eq same])
    (fun c gap => by rw [P.unlabelled_of_gap gap]; rfl)
  exact rel_mono found fun _ _ h => h.1

theorem forall₂_items {a b : Node} (paired : P.pairs a b) :
    List.Forall₂ P.pairs a.items b.items := by
  have chosen := (P.children paired).forall₂_filter (p := Node.isItem) (q := Node.isItem)
    (fun _ _ => P.isItem_eq) fun _ => P.isItem_of_gap
  exact chosen.imp fun _ _ h => h.1

theorem forall₂_itemsOf {a b : Node} (paired : P.pairs a b) (field : Field) :
    List.Forall₂ P.pairs (a.itemsOf field) (b.itemsOf field) := by
  unfold Node.itemsOf
  have found := P.rel_child? paired field
  generalize a.child? field = x, b.child? field = y at found ⊢
  cases found with
  | none => exact .nil
  | some inside => exact P.forall₂_items inside

theorem rel_find?_namedChildren {a b : Node} (paired : P.pairs a b) {kind : Kind}
    (content : kind ≠ .comment) :
    Option.Rel P.pairs (a.namedChildren.find? (·.kind == kind))
      (b.namedChildren.find? (·.kind == kind)) := by
  have named := (P.children paired).filter (p := (·.named)) (q := (·.named))
    fun _ _ => P.named_eq
  have found := named.rel_find? (p := (·.kind == kind)) (q := (·.kind == kind))
    (fun x y same => by rw [P.kind_eq same])
    (fun c gap => by rw [P.comment_of_gap gap]; simpa using Ne.symm content)
  exact rel_mono found fun _ _ h => h.1

theorem forall₂_decorators {a b : Node} (paired : P.pairs a b) :
    List.Forall₂ P.pairs a.decorators b.decorators := by
  have chosen := (P.children paired).forall₂_filter (p := (·.kind == .decorator))
    (q := (·.kind == .decorator)) (fun _ _ same => by rw [P.kind_eq same])
    (fun _ gap => by rw [P.comment_of_gap gap]; rfl)
  exact chosen.imp fun _ _ h => h.1

theorem isTrimming_of_gap {c : Node} (gap : P.gap c) : c.IsTrimming :=
  ⟨P.unlabelled_of_gap gap, .inl (P.comment_of_gap gap)⟩

/-- Children that read the same, or the bodies of two methods. -/
def inOutline (a b : Node) : Prop := P.pairs a b ∨ a.IsBody ∧ b.IsBody

theorem kind_eq_of_inOutline {a b : Node} (alike : P.inOutline a b) : a.kind = b.kind := by
  rcases alike with paired | ⟨first, second⟩
  · exact P.kind_eq paired
  · rw [first.2, second.2]

theorem field_eq_of_inOutline {a b : Node} (alike : P.inOutline a b) : a.field = b.field := by
  rcases alike with paired | ⟨first, second⟩
  · exact P.field_eq paired
  · rw [first.1, second.1]

/-- Two nodes that read the same apart from the bodies of methods. The first may have children
that the second lacks. -/
structure Outline (gap : Node → Prop) (a b : Node) : Prop where
  kind_eq : a.kind = b.kind
  named_eq : a.named = b.named
  children : Aligned P.inOutline gap a.children b.children

theorem outline {a b : Node} (paired : P.pairs a b) : P.Outline P.gap a b where
  kind_eq := P.kind_eq paired
  named_eq := P.named_eq paired
  children := (P.children paired).mono (fun _ _ => .inl) fun _ => id

end Pairing

namespace Pairing.Outline

variable {P : Pairing left right} {gap : Node → Prop} {a b : Node} (alike : P.Outline gap a b)
  (trims : ∀ c, gap c → c.IsTrimming)

include alike trims

theorem rel_child? (field : Field) (outside : field ≠ .body) :
    Option.Rel P.pairs (a.child? field) (b.child? field) := by
  have found := alike.children.rel_find? (p := fun child => child.field == some field)
    (q := fun child => child.field == some field)
    (fun x y same => by rw [P.field_eq_of_inOutline same])
    (fun c trim => by rw [(trims c trim).1]; rfl)
  refine rel_mono found fun x y h => ?_
  -- of two bodies nothing is known, but a child found by another label is no body
  obtain ⟨paired | ⟨body, -⟩, labelled⟩ := h
  · exact paired
  · rw [body.1, beq_iff_eq, Option.some.injEq] at labelled
    exact absurd labelled.symm outside

theorem any_kind_eq (kinds : Kind → Bool) (comment : kinds .comment = false)
    (decorator : kinds .decorator = false) :
    a.children.any (fun child => kinds child.kind) =
      b.children.any (fun child => kinds child.kind) := by
  refine alike.children.any_eq (fun x y same => by rw [P.kind_eq_of_inOutline same]) ?_
  intro c trim
  rcases (trims c trim).2 with kind | kind
  · rw [kind, comment]
  · rw [kind, decorator]

theorem isStatic_eq : a.isStatic = b.isStatic :=
  alike.any_kind_eq trims (fun kind => kind == .staticWord || kind == .staticGetWord) rfl rfl

theorem isGetter_eq : a.isGetter = b.isGetter := by
  have word := alike.any_kind_eq trims
    (fun kind => kind == .getWord || kind == .staticGetWord) rfl rfl
  rw [Node.isGetter, Node.isGetter, alike.kind_eq, word]

theorem memberKind?_eq : a.memberKind? = b.memberKind? := by
  rw [Node.memberKind?, Node.memberKind?, alike.kind_eq, alike.isGetter_eq trims]

theorem rel_plainName? : Option.Rel P.pairs a.plainName? b.plainName? :=
  rel_optionFilter (alike.rel_child? trims .name (by decide))
    (p := (·.kind.isPlainName)) (q := (·.kind.isPlainName)) fun _ _ same => by rw [P.kind_eq same]

theorem map_text_plainName? : a.plainName?.map left.text = b.plainName?.map right.text :=
  map_eq_of_rel (alike.rel_plainName? trims) fun _ _ => P.text_eq

theorem isConstructor_eq : a.isConstructor left = b.isConstructor right := by
  have named := any_eq_of_rel (alike.rel_plainName? trims)
    (p := fun name => left.text name == "constructor")
    (q := fun name => right.text name == "constructor") fun _ _ same => by rw [P.text_eq same]
  rw [Node.isConstructor, Node.isConstructor, alike.kind_eq, named]

omit trims in
theorem forall₂_decorators (keeps : ∀ c, gap c → c.kind ≠ .decorator) :
    List.Forall₂ P.pairs a.decorators b.decorators := by
  have chosen := alike.children.forall₂_filter (p := (·.kind == .decorator))
    (q := (·.kind == .decorator)) (fun x y same => by rw [P.kind_eq_of_inOutline same])
    (fun c skipped => by simpa using keeps c skipped)
  refine chosen.imp fun x y h => ?_
  obtain ⟨paired | ⟨body, -⟩, decorator⟩ := h
  · exact paired
  · rw [body.2] at decorator
    cases decorator

end Pairing.Outline

end ReactiveProps.SyntaxTree
