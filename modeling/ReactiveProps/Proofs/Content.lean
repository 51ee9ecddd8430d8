import ReactiveProps.Proofs.Pairing

/-!
# Nodes with the same content

Two nodes have the same content if they are spelled the same from top to bottom, wherever they stand
and however they are numbered. This is the pairing without gaps that matches the most.
-/
namespace ReactiveProps.SyntaxTree

def Source.spelling (source : Source) (node : Node) : List UInt8 :=
  (source.bytes.extract node.span.start node.span.stop).data.toList

theorem Source.text_eq_of_spelling {left right : Source} {a b : Node}
    (same : left.spelling a = right.spelling b) : left.text a = right.text b := by
  have bytes : left.bytes.extract a.span.start a.span.stop =
      right.bytes.extract b.span.start b.span.stop := ByteArray.ext (Array.toList_inj.mp same)
  rw [text, text, slice?, slice?, bytes]

variable (left right : Source)

mutual

/-- Whether two nodes have the same kind, label and bytes, and so have their children in order. -/
def sameContent : Node → Node → Bool
  -- the first node is taken apart, because the recursion goes down its children
  | ⟨id, kind, named, field, span, children⟩, other =>
    kind == other.kind && named == other.named && field == other.field &&
      left.spelling ⟨id, kind, named, field, span, children⟩ == right.spelling other &&
      sameContents children other.children

def sameContents : List Node → List Node → Bool
  | [], others => others.isEmpty
  | node :: rest, others =>
    match others with
    | [] => false
    | other :: more => sameContent node other && sameContents rest more

end

theorem forall₂_of_sameContents {xs ys : List Node} (same : sameContents left right xs ys = true) :
    List.Forall₂ (fun a b => sameContent left right a b = true) xs ys := by
  induction xs generalizing ys with
  | nil =>
    rw [sameContents] at same
    cases List.isEmpty_iff.mp same
    exact .nil
  | cons x xs ih =>
    cases ys with
    | nil =>
      rw [sameContents] at same
      cases same
    | cons y ys =>
      rw [sameContents, Bool.and_eq_true] at same
      exact .cons same.1 (ih same.2)

structure Node.SameContent (a b : Node) : Prop where
  kind : a.kind = b.kind
  named : a.named = b.named
  field : a.field = b.field
  text : left.text a = right.text b
  children : List.Forall₂ (fun x y => sameContent left right x y = true) a.children b.children

theorem of_sameContent {a b : Node} (same : sameContent left right a b = true) :
    a.SameContent left right b := by
  obtain ⟨id, kind, named, field, span, children⟩ := a
  rw [sameContent] at same
  simp only [Bool.and_eq_true, beq_iff_eq] at same
  obtain ⟨⟨⟨⟨kind, named⟩, field⟩, spelling⟩, children⟩ := same
  exact ⟨kind, named, field, Source.text_eq_of_spelling spelling,
    forall₂_of_sameContents left right children⟩

def contentPairing : Pairing left right where
  pairs a b := sameContent left right a b = true
  gap _ := False
  kind_eq same := (of_sameContent left right same).kind
  named_eq same := (of_sameContent left right same).named
  field_eq same := (of_sameContent left right same).field
  text_eq same := (of_sameContent left right same).text
  children same := .of_forall₂ (of_sameContent left right same).children
  comment_of_gap := nofun
  unlabelled_of_gap := nofun
  leaf_of_gap := nofun

def Pairing.refl (source : Source) : Pairing source source :=
  { contentPairing source source with
    pairs := Eq
    kind_eq := congrArg Node.kind
    named_eq := congrArg Node.named
    field_eq := congrArg Node.field
    text_eq := congrArg source.text
    children := fun same => same ▸ .of_forall₂ (List.forall₂_same.mpr fun _ _ => rfl) }

end ReactiveProps.SyntaxTree
