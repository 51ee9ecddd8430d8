import ReactiveProps.Proofs.Heritage
import ReactiveProps.Proofs.Ownership
import ReactiveProps.Text.Blank

/-!
# Modules in another layout

Two trees of the same shape and with the same tokens differ only in what stands between the tokens.
The text of an inner node then is the same apart from white space. Registrations are found by the
text of the called function, an inner node: white space in it hides the registration, and nothing
else in the layout matters.
-/
namespace ReactiveProps

namespace SyntaxTree

/-- White space between tokens: a blank or one of the separators that have no width. -/
def isSpacing (c : Char) : Bool :=
  Text.isBlank c || c ∈ ['\u200b', '\u2060', '\ufeff']

/-- The text consists of the given pieces in order, with white space before, between and after. -/
inductive Spaced : List (List Char) → List Char → Prop
  | nil : Spaced [] []
  | next {piece text : List Char} {pieces : List (List Char)} (tail : Spaced pieces text) :
      Spaced (piece :: pieces) (piece ++ text)
  | space {c : Char} {text : List Char} {pieces : List (List Char)} (spacing : isSpacing c = true)
      (tail : Spaced pieces text) : Spaced pieces (c :: text)

def withoutSpacing (text : List Char) : List Char :=
  text.filter fun c => !isSpacing c

def Source.unspaced (source : Source) (node : Node) : String :=
  String.ofList (withoutSpacing (source.text node).toList)

namespace Spaced

theorem withoutSpacing_eq {pieces : List (List Char)} {text : List Char}
    (spaced : Spaced pieces text) :
    withoutSpacing text = (pieces.map withoutSpacing).flatten := by
  unfold withoutSpacing
  induction spaced with
  | nil => rfl
  | next _ ih => rw [List.filter_append, List.map_cons, List.flatten_cons, ih]
  | space spacing _ ih => rw [List.filter_cons_of_neg (by simp [spacing]), ih]

theorem nil_iff {text : List Char} : Spaced [] text ↔ text.all isSpacing = true := by
  constructor
  · intro spaced
    generalize none : [] = pieces at spaced
    induction spaced with
    | nil => rfl
    | next => cases none
    | space spacing _ ih => rw [List.all_cons, spacing, ih none, Bool.and_self]
  · intro spacing
    induction text with
    | nil => exact .nil
    | cons c text ih =>
      rw [List.all_cons, Bool.and_eq_true] at spacing
      exact .space spacing.1 (ih spacing.2)

theorem cons_iff {piece : List Char} {pieces : List (List Char)} {text : List Char} :
    Spaced (piece :: pieces) text ↔
      piece <+: text ∧ Spaced pieces (text.drop piece.length) ∨
        ∃ c ∈ text.head?, isSpacing c = true ∧ Spaced (piece :: pieces) text.tail := by
  constructor
  · intro spaced
    generalize whole : piece :: pieces = all at spaced
    cases spaced with
    | nil => cases whole
    | next tail =>
      obtain ⟨rfl, rfl⟩ := List.cons.inj whole
      exact .inl ⟨List.prefix_append .., by rwa [List.drop_left]⟩
    | space spacing tail => exact .inr ⟨_, rfl, spacing, whole ▸ tail⟩
  · rintro (⟨⟨rest, rfl⟩, tail⟩ | ⟨c, first, spacing, tail⟩)
    · rw [List.drop_left] at tail
      exact .next tail
    · obtain ⟨rest, rfl⟩ := List.head?_eq_some_iff.mp first
      exact .space spacing tail

def decidableCons (piece : List Char) (pieces : List (List Char))
    (decidableTail : ∀ text, Decidable (Spaced pieces text)) :
    ∀ text, Decidable (Spaced (piece :: pieces) text)
  | [] =>
    have := decidableTail ([].drop piece.length)
    decidable_of_iff (piece <+: [] ∧ Spaced pieces ([].drop piece.length))
      ⟨fun h => cons_iff.mpr (.inl h), fun h => (cons_iff.mp h).resolve_right nofun⟩
  | c :: text =>
    have := decidableTail ((c :: text).drop piece.length)
    have := decidableCons piece pieces decidableTail text
    decidable_of_iff (piece <+: c :: text ∧ Spaced pieces ((c :: text).drop piece.length) ∨
        isSpacing c = true ∧ Spaced (piece :: pieces) text)
      (Iff.trans (or_congr_right (by simp)) cons_iff.symm)

instance decidable : ∀ pieces text, Decidable (Spaced pieces text)
  | [], _ => decidable_of_iff _ nil_iff.symm
  | piece :: pieces, text => decidableCons piece pieces (decidable pieces) text

end Spaced

/-- A node whose text is one piece: a token or a string literal. -/
def Node.IsToken (node : Node) : Prop :=
  node.children = [] ∨ node.kind = .stringLiteral

instance (node : Node) : Decidable node.IsToken :=
  inferInstanceAs (Decidable (_ ∨ _))

/-- A tree as the grammar gives it, as far as the text of its nodes goes: between the children of a
node stands nothing but white space, and names are tokens. -/
structure LaidOut (source : Source) (root : Node) : Prop where
  spaced : ∀ node ∈ root.preorder, ¬ node.IsToken →
    Spaced (node.children.map fun child => (source.text child).toList) (source.text node).toList
  names : ∀ node ∈ root.preorder, node.kind = .identifier → node.children = []

instance (source : Source) (root : Node) : Decidable (LaidOut source root) :=
  decidable_of_iff ((∀ node ∈ root.preorder, ¬ node.IsToken →
      Spaced (node.children.map fun child => (source.text child).toList)
        (source.text node).toList) ∧
      ∀ node ∈ root.preorder, node.kind = .identifier → node.children = [])
    ⟨fun ⟨spaced, names⟩ => ⟨spaced, names⟩, fun ⟨spaced, names⟩ => ⟨spaced, names⟩⟩

theorem LaidOut.of_mem {source : Source} {root node : Node} (laidOut : LaidOut source root)
    (inside : node ∈ root.preorder) : LaidOut source node := by
  have deeper (inner : Node) (listed : inner ∈ node.preorder) : inner ∈ root.preorder := by
    rw [Node.mem_preorder_iff_within] at inside listed ⊢
    exact inside.trans listed
  exact ⟨fun inner listed => laidOut.spaced inner (deeper inner listed),
    fun inner listed => laidOut.names inner (deeper inner listed)⟩

theorem LaidOut.child {source : Source} {node child : Node} (laidOut : LaidOut source node)
    (below : child ∈ node.children) : LaidOut source child :=
  laidOut.of_mem (Node.mem_preorder_of_child below node node.mem_preorder_self)

/-- Two trees that agree in kinds, named flags, labels, nesting and tokens. -/
inductive Respaced (left right : Source) : Node → Node → Prop
  | intro {a b : Node} (kind_eq : a.kind = b.kind) (named_eq : a.named = b.named)
      (field_eq : a.field = b.field) (text_eq : a.IsToken → left.text a = right.text b)
      (children : List.Forall₂ (Respaced left right) a.children b.children) :
      Respaced left right a b

namespace Respaced

variable {left right : Source}

theorem iff_and {a b : Node} :
    Respaced left right a b ↔ a.kind = b.kind ∧ a.named = b.named ∧ a.field = b.field ∧
      (a.IsToken → left.text a = right.text b) ∧
        List.Forall₂ (Respaced left right) a.children b.children :=
  ⟨fun ⟨kind_eq, named_eq, field_eq, text_eq, children⟩ =>
      ⟨kind_eq, named_eq, field_eq, text_eq, children⟩,
    fun ⟨kind_eq, named_eq, field_eq, text_eq, children⟩ =>
      ⟨kind_eq, named_eq, field_eq, text_eq, children⟩⟩

mutual

instance decidable (left right : Source) : ∀ a b, Decidable (Respaced left right a b)
  | ⟨_, _, _, _, _, children⟩, b =>
    have := decidableAll left right children b.children
    decidable_of_iff _ iff_and.symm

def decidableAll (left right : Source) :
    ∀ xs ys, Decidable (List.Forall₂ (Respaced left right) xs ys)
  | [], [] => .isTrue .nil
  | [], _ :: _ => .isFalse nofun
  | _ :: _, [] => .isFalse nofun
  | x :: xs, y :: ys =>
    have := decidable left right x y
    have := decidableAll left right xs ys
    decidable_of_iff _ List.forall₂_cons.symm

end

variable {a b : Node}

theorem kind_eq (respaced : Respaced left right a b) : a.kind = b.kind := by
  obtain ⟨kind_eq, -, -, -, -⟩ := respaced
  exact kind_eq

theorem named_eq (respaced : Respaced left right a b) : a.named = b.named := by
  obtain ⟨-, named_eq, -, -, -⟩ := respaced
  exact named_eq

theorem field_eq (respaced : Respaced left right a b) : a.field = b.field := by
  obtain ⟨-, -, field_eq, -, -⟩ := respaced
  exact field_eq

theorem text_eq (respaced : Respaced left right a b) (token : a.IsToken) :
    left.text a = right.text b := by
  obtain ⟨-, -, -, text_eq, -⟩ := respaced
  exact text_eq token

theorem children (respaced : Respaced left right a b) :
    List.Forall₂ (Respaced left right) a.children b.children := by
  obtain ⟨-, -, -, -, children⟩ := respaced
  exact children

theorem isItem_eq (respaced : Respaced left right a b) : a.isItem = b.isItem := by
  rw [Node.isItem, Node.isItem, respaced.kind_eq, respaced.named_eq]

theorem isToken_iff (respaced : Respaced left right a b) : a.IsToken ↔ b.IsToken := by
  have none : a.children = [] ↔ b.children = [] := by
    rw [← List.length_eq_zero_iff, ← List.length_eq_zero_iff, respaced.children.length_eq]
  rw [Node.IsToken, Node.IsToken, respaced.kind_eq, none]

mutual

theorem forall₂_preorder : ∀ a b : Node, Respaced left right a b →
    List.Forall₂ (Respaced left right) a.preorder b.preorder
  | ⟨id, kind, named, field, span, children⟩, b, respaced => by
    rw [Node.preorder_eq, Node.preorder_eq]
    exact .cons respaced (forall₂_preorderAll children b.children respaced.children)

theorem forall₂_preorderAll : ∀ xs ys : List Node, List.Forall₂ (Respaced left right) xs ys →
    List.Forall₂ (Respaced left right) (Node.preorderAll xs) (Node.preorderAll ys)
  | [], _, .nil => .nil
  | x :: xs, y :: ys, .cons head tail => by
    rw [Node.preorderAll, Node.preorderAll]
    exact List.rel_append (forall₂_preorder x y head) (forall₂_preorderAll xs ys tail)

end

theorem rel_child? (respaced : Respaced left right a b) (field : Field) :
    Option.Rel (Respaced left right) (a.child? field) (b.child? field) :=
  rel_find?_of_forall₂ respaced.children fun _ _ same => by rw [same.field_eq]

theorem forall₂_items (respaced : Respaced left right a b) :
    List.Forall₂ (Respaced left right) a.items b.items :=
  List.rel_filter (fun _ _ same => Bool.eq_iff_iff.mp same.isItem_eq) respaced.children

theorem forall₂_itemsOf (respaced : Respaced left right a b) (field : Field) :
    List.Forall₂ (Respaced left right) (a.itemsOf field) (b.itemsOf field) := by
  unfold Node.itemsOf
  have found := respaced.rel_child? field
  generalize a.child? field = x, b.child? field = y at found ⊢
  cases found with
  | none => exact .nil
  | some inside => exact inside.forall₂_items

/-- The texts of two nodes at the same place differ in white space only. -/
theorem unspaced_eq (respaced : Respaced left right a b) (laidOut : LaidOut left a)
    (laidOutToo : LaidOut right b) : left.unspaced a = right.unspaced b := by
  refine congrArg String.ofList ?_
  induction a using Node.induction generalizing b with
  | step a ih =>
    by_cases token : a.IsToken
    · rw [respaced.text_eq token]
    · have inner := laidOut.spaced a a.mem_preorder_self token
      have innerToo := laidOutToo.spaced b b.mem_preorder_self (respaced.isToken_iff.not.mp token)
      rw [inner.withoutSpacing_eq, innerToo.withoutSpacing_eq, List.map_map, List.map_map]
      refine congrArg List.flatten (map_eq_of_forall₂ (forall₂_mem_both respaced.children) ?_)
      rintro x y ⟨below, belowToo, same⟩
      rw [Function.comp_apply, Function.comp_apply]
      exact ih x below same (laidOut.child below) (laidOutToo.child belowToo)

end Respaced

end SyntaxTree

namespace Element

open SyntaxTree

variable {source left right : Source}

/-- A call whose callee is a definer apart from white space calls a definer. -/
def IsUnbroken (source : Source) (call : Node) : Prop :=
  call.kind = .callExpression → ∀ callee ∈ call.child? .function,
    source.unspaced callee ∈ definers → source.text callee ∈ definers

def Unbroken (source : Source) (root : Node) : Prop :=
  ∀ call ∈ root.preorder, IsUnbroken source call

instance (source : Source) (call : Node) : Decidable (IsUnbroken source call) :=
  inferInstanceAs (Decidable (_ → ∀ callee ∈ call.child? .function, _ → _))

instance (source : Source) (root : Node) : Decidable (Unbroken source root) :=
  inferInstanceAs (Decidable (∀ call ∈ root.preorder, IsUnbroken source call))

theorem isSpacing_of_definer {definer : String} (listed : definer ∈ definers) {c : Char}
    (inside : c ∈ definer.toList) : isSpacing c = false := by
  have none : (definers.flatMap String.toList).all (!isSpacing ·) = true := by decide +kernel
  have letter := List.all_eq_true.mp none c (List.mem_flatMap.mpr ⟨definer, listed, inside⟩)
  simpa using letter

theorem unspaced_mem_definers {callee : Node} (definer : source.text callee ∈ definers) :
    source.unspaced callee ∈ definers := by
  have kept : withoutSpacing (source.text callee).toList = (source.text callee).toList := by
    refine List.filter_eq_self.mpr fun c inside => ?_
    rw [isSpacing_of_definer definer inside]
    rfl
  rw [Source.unspaced, kept, String.ofList_toList]
  exact definer

theorem text_mem_definers_of_agree {callee other : Node}
    (agree : left.unspaced callee = right.unspaced other)
    (unbroken : right.unspaced other ∈ definers → right.text other ∈ definers)
    (definer : left.text callee ∈ definers) : right.text other ∈ definers := by
  refine unbroken ?_
  rw [← agree]
  exact unspaced_mem_definers definer

theorem definition?_eq_none {call : Node}
    (plain : ∀ callee ∈ call.child? .function, source.text callee ∉ definers) :
    definition? source call = none := by
  refine if_neg fun ⟨_, called⟩ => ?_
  obtain ⟨callee, called, definer⟩ := (Option.any_eq_true ..).mp called
  exact plain callee called (of_decide_eq_true definer)

section Respaced

variable {a b : Node} (respaced : Respaced left right a b) (laidOut : LaidOut left a)

include respaced laidOut

theorem forall₂_arguments_of_respaced :
    List.Forall₂ (fun x y => x.kind = y.kind ∧
      (x.kind = .stringLiteral ∨ x.kind = .identifier → left.text x = right.text y))
      a.callArguments b.callArguments := by
  refine (forall₂_mem (respaced.forall₂_itemsOf .arguments)).imp ?_
  rintro x y ⟨listed, same⟩
  refine ⟨same.kind_eq, fun chosen => same.text_eq ?_⟩
  rcases chosen with literal | reference
  · exact .inr literal
  · obtain ⟨list, labelled, below⟩ := Node.exists_of_mem_itemsOf listed
    have inner := (laidOut.child (mem_children_of_child? labelled)).child below
    exact .inl (inner.names x x.mem_preorder_self reference)

variable (laidOutToo : LaidOut right b)

include laidOutToo

theorem any_definers_eq_of_respaced
    (same : ∀ callee ∈ a.child? .function, ∀ other ∈ b.child? .function,
      left.unspaced callee = right.unspaced other →
        (left.text callee ∈ definers ↔ right.text other ∈ definers)) :
    (a.child? .function).any (fun callee => left.text callee ∈ definers) =
      (b.child? .function).any fun callee => right.text callee ∈ definers := by
  have found := respaced.rel_child? .function
  generalize labelled : a.child? .function = x, labelledToo : b.child? .function = y
    at found same ⊢
  cases found with
  | none => rw [Option.any_none, Option.any_none]
  | some paired =>
    have agree := paired.unspaced_eq (laidOut.child (mem_children_of_child? labelled))
      (laidOutToo.child (mem_children_of_child? labelledToo))
    rw [Option.any_some, Option.any_some]
    exact decide_eq_decide.mpr (same _ rfl _ rfl agree)

/-- Calls register alike if they both call a definer or both do not. -/
theorem definition?_eq_of_respaced
    (same : a.kind = .callExpression →
      ∀ callee ∈ a.child? .function, ∀ other ∈ b.child? .function,
        left.unspaced callee = right.unspaced other →
          (left.text callee ∈ definers ↔ right.text other ∈ definers)) :
    definition? left a = definition? right b := by
  by_cases isCall : a.kind = .callExpression
  · exact definition?_eq_of_arguments respaced.kind_eq
      (any_definers_eq_of_respaced respaced laidOut laidOutToo (same isCall))
      (forall₂_arguments_of_respaced respaced laidOut)
  · have isCallToo : b.kind ≠ .callExpression := respaced.kind_eq ▸ isCall
    exact (if_neg fun h => isCall h.1).trans (if_neg fun h => isCallToo h.1).symm

/-- A call registers nothing, or the same as the call at its place in a module where that calls no
broken definer. -/
theorem definition?_eq_none_or_eq_of_unbroken (unbroken : IsUnbroken right b) :
    definition? left a = none ∨ definition? left a = definition? right b := by
  by_cases calls : ∃ callee ∈ a.child? .function, left.text callee ∈ definers
  · obtain ⟨callee, labelled, definer⟩ := calls
    right
    refine definition?_eq_of_respaced respaced laidOut laidOutToo ?_
    intro isCall callee' labelled' other labelledToo agree
    obtain rfl := Option.some.inj (labelled.symm.trans labelled')
    have isCallToo := respaced.kind_eq.symm.trans isCall
    exact iff_of_true definer
      (text_mem_definers_of_agree agree (unbroken isCallToo other labelledToo) definer)
  · left
    exact definition?_eq_none fun callee labelled definer => calls ⟨callee, labelled, definer⟩

theorem definition?_eq_of_unbroken (unbroken : IsUnbroken left a)
    (unbrokenToo : IsUnbroken right b) : definition? left a = definition? right b := by
  refine definition?_eq_of_respaced respaced laidOut laidOutToo ?_
  intro isCall callee labelled other labelledToo agree
  have here := unbroken isCall callee labelled
  have there := unbrokenToo (respaced.kind_eq.symm.trans isCall) other labelledToo
  exact ⟨text_mem_definers_of_agree agree there, text_mem_definers_of_agree agree.symm here⟩

end Respaced

/-- White space in the called function hides a registration, and so a layout can only lose some.
Where it breaks no definer, the layout of a module does not matter. -/
theorem definitions_independent_of_layout_unless_broken (left right : Source) (a b : Node)
    (respaced : Respaced left right a b) (laidOut : LaidOut left a) (laidOutToo : LaidOut right b) :
    (∀ call, ∀ callee ∈ call.child? .function,
      (∃ c ∈ (left.text callee).toList, isSpacing c = true) → definition? left call = none) ∧
    (Unbroken right b → (registrations left a).Sublist (registrations right b)) ∧
    (Unbroken left a → Unbroken right b → definitions left a = definitions right b) := by
  have pairs := forall₂_mem_both (respaced.forall₂_preorder a b)
  refine ⟨?_, fun unbroken => ?_, fun unbroken unbrokenToo => ?_⟩
  · rintro call callee labelled ⟨c, inside, spacing⟩
    refine definition?_eq_none fun other labelledToo definer => ?_
    obtain rfl := Option.some.inj (labelled.symm.trans labelledToo)
    rw [isSpacing_of_definer definer inside] at spacing
    cases spacing
  · rw [registrations_eq, registrations_eq]
    refine sublist_filterMap_of_forall₂ pairs ?_
    rintro x y ⟨inside, insideToo, same⟩
    exact definition?_eq_none_or_eq_of_unbroken same (laidOut.of_mem inside)
      (laidOutToo.of_mem insideToo) (unbroken y insideToo)
  · have each : registrations left a = registrations right b := by
      rw [registrations_eq, registrations_eq]
      have aligned : Aligned _ (fun _ => False) a.preorder b.preorder := .of_forall₂ pairs
      refine aligned.filterMap_eq ?_ fun _ => False.elim
      rintro x y ⟨inside, insideToo, same⟩
      exact definition?_eq_of_unbroken same (laidOut.of_mem inside) (laidOutToo.of_mem insideToo)
        (unbroken x inside) (unbrokenToo y insideToo)
    rw [definitions, definitions, each]

def registration (places : List (Nat × Nat)) : Node :=
  let rows := [
    Property.namedRow (.other "program") 1 0 0 none,
    Property.namedRow .expressionStatement 2 0 0 none,
    Property.namedRow .callExpression 2 0 0 none,
    Property.namedRow .memberExpression 3 0 0 (some .function),
    Property.namedRow .identifier 0 0 0 (some .object),
    ⟨.other ".", false, none, ⟨0, 0⟩, 0⟩,
    Property.namedRow .propertyIdentifier 0 0 0 (some .property),
    Property.namedRow (.other "arguments") 5 0 0 (some .arguments),
    ⟨.other "(", false, none, ⟨0, 0⟩, 0⟩,
    Property.namedRow .stringLiteral 3 0 0 none,
    ⟨.other "'", false, none, ⟨0, 0⟩, 0⟩,
    Property.namedRow (.other "string_fragment") 0 0 0 none,
    ⟨.other "'", false, none, ⟨0, 0⟩, 0⟩,
    ⟨.other ",", false, none, ⟨0, 0⟩, 0⟩,
    Property.namedRow .identifier 0 0 0 none,
    ⟨.other ")", false, none, ⟨0, 0⟩, 0⟩,
    ⟨.other ";", false, none, ⟨0, 0⟩, 0⟩]
  let placed := List.zipWith (fun row place => { row with span := ⟨place.1, place.2⟩ }) rows places
  (Node.ofRows? placed).getD default

def tightSource : Source := .ofString "customElements.define('x-a',A);"

def tight : Node := registration [(0, 31), (0, 31), (0, 30), (0, 21), (0, 14), (14, 15), (15, 21),
  (21, 30), (21, 22), (22, 27), (22, 23), (23, 26), (26, 27), (27, 28), (28, 29), (29, 30),
  (30, 31)]

theorem laidOut_tight : LaidOut tightSource tight := by decide +kernel

def wideSource : Source := .ofString "customElements.define (\n'x-a' , A ) ;\n"

def wide : Node := registration [(0, 38), (0, 37), (0, 35), (0, 21), (0, 14), (14, 15), (15, 21),
  (22, 35), (22, 23), (24, 29), (24, 25), (25, 28), (28, 29), (30, 31), (32, 33), (34, 35),
  (36, 37)]

/-- White space outside the called function does not matter. -/
theorem definitions_independent_of_layout_unless_broken_wide :
    (definitions tightSource tight).get? "A" = some "x-a" ∧
      definitions wideSource wide = definitions tightSource tight := by
  obtain ⟨-, -, equal⟩ := definitions_independent_of_layout_unless_broken wideSource tightSource wide
    tight (by decide +kernel) (by decide +kernel) laidOut_tight
  exact ⟨by decide +kernel, equal (by decide +kernel) (by decide +kernel)⟩

def brokenSource : Source := .ofString "customElements . define('x-a', A);"

def broken : Node := registration [(0, 34), (0, 34), (0, 33), (0, 23), (0, 14), (15, 16), (17, 23),
  (23, 33), (23, 24), (24, 29), (24, 25), (25, 28), (28, 29), (29, 30), (31, 32), (32, 33),
  (33, 34)]

/-- Spaces around the dot hide the registration. -/
theorem broken_callee_hides_registration :
    Respaced tightSource brokenSource tight broken ∧
      LaidOut tightSource tight ∧ LaidOut brokenSource broken ∧
      (definitions tightSource tight).get? "A" = some "x-a" ∧
        (definitions brokenSource broken).get? "A" = none :=
  ⟨by decide +kernel, laidOut_tight, by decide +kernel, by decide +kernel, by decide +kernel⟩

end Element

end ReactiveProps
