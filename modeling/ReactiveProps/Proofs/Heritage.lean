import Mathlib.Logic.Relation
import ReactiveProps.Proofs.Merge
import ReactiveProps.Proofs.Spots
import ReactiveProps.Proofs.Surroundings

/-!
# Which classes are elements

A class is an element if a base class is named anywhere in its extends clause. Without an extends
clause its implements clause is searched in the same way.
-/
namespace ReactiveProps

namespace SyntaxTree.Node

def Within (top : Node) : Node → Prop :=
  Relation.ReflTransGen (fun parent child => child ∈ parent.children) top

theorem within_iff_child {top node : Node} :
    Within top node ↔ node = top ∨ ∃ child ∈ top.children, Within child node := by
  rw [Within, Relation.ReflTransGen.cases_head_iff, eq_comm]
  rfl

theorem mem_preorder_iff_within {top node : Node} : node ∈ top.preorder ↔ Within top node := by
  induction top using Node.induction with
  | step top ih =>
    rw [preorder_eq, List.mem_cons, preorderAll_eq_flatMap, List.mem_flatMap, within_iff_child]
    refine or_congr_right (exists_congr fun child => and_congr_right fun below => ?_)
    exact ih child below

end SyntaxTree.Node

namespace Element

open SyntaxTree Property

/-- One of the names stands in a subtree, at any depth. -/
def NamedIn (source : Source) (names : List String) (top : Node) : Prop :=
  ∃ node, Node.Within top node ∧ node.kind.isName = true ∧ source.text node ∈ names

theorem mentions_iff {source : Source} {names : List String} {top : Node} :
    mentions source names top = true ↔ NamedIn source names top := by
  simp only [mentions, Node.walk_eq_preorder, List.any_eq_true, Bool.and_eq_true,
    decide_eq_true_eq, NamedIn, ← Node.mem_preorder_iff_within]

def implementsClause : Kind := .other "implements_clause"

/-- A heritage as the grammar gives it: an extends clause, an implements clause or both in this
order, and comments, which are leaves. -/
structure HeritageForm (heritage : Node) : Prop where
  named : ∀ child ∈ heritage.children, child.named = true
  clauses : heritage.items.map (·.kind) ∈
    [[.extendsClause], [implementsClause], [.extendsClause, implementsClause]]
  comments : ∀ child ∈ heritage.children, child.kind = .comment → child.children = []

/-- A class as the grammar gives it, as far as its heritage goes. -/
structure ClassForm (cls : Node) : Prop where
  single : (cls.namedChildren.filter (·.kind == .classHeritage)).length ≤ 1
  heritage : ∀ heritage ∈ cls.namedChildren, heritage.kind = .classHeritage → HeritageForm heritage

instance (heritage : Node) : Decidable (HeritageForm heritage) :=
  decidable_of_iff ((∀ child ∈ heritage.children, child.named = true) ∧
      heritage.items.map (·.kind) ∈
        [[.extendsClause], [implementsClause], [.extendsClause, implementsClause]] ∧
      ∀ child ∈ heritage.children, child.kind = .comment → child.children = [])
    ⟨fun ⟨named, clauses, comments⟩ => ⟨named, clauses, comments⟩,
      fun ⟨named, clauses, comments⟩ => ⟨named, clauses, comments⟩⟩

instance (cls : Node) : Decidable (ClassForm cls) :=
  decidable_of_iff ((cls.namedChildren.filter (·.kind == .classHeritage)).length ≤ 1 ∧
      ∀ heritage ∈ cls.namedChildren, heritage.kind = .classHeritage → HeritageForm heritage)
    ⟨fun ⟨single, heritage⟩ => ⟨single, heritage⟩, fun ⟨single, heritage⟩ => ⟨single, heritage⟩⟩

def HasClause (cls : Node) (kind : Kind) (clause : Node) : Prop :=
  ∃ heritage ∈ cls.namedChildren, heritage.kind = .classHeritage ∧ clause ∈ heritage.children ∧
    clause.kind = kind

theorem heritage?_eq_some_iff {cls : Node} (form : ClassForm cls) (heritage : Node) :
    heritage? cls = some heritage ↔ heritage ∈ cls.namedChildren ∧
      heritage.kind = .classHeritage := by
  rw [heritage?, find?_eq_some_iff_of_single form.single, beq_iff_eq]

section Heritage

variable {heritage : Node}

theorem baseClause_eq (heritage : Node) :
    baseClause heritage = (heritage.items.find? (·.kind == .extendsClause)).getD heritage := by
  rw [baseClause, Node.namedChildren, Node.items, List.find?_filter, List.find?_filter]
  congr 2
  funext child
  by_cases clause : child.kind = .extendsClause <;> simp [Node.isItem, clause]

variable (form : HeritageForm heritage)

include form

theorem mem_items_iff (child : Node) :
    child ∈ heritage.items ↔ child ∈ heritage.children ∧ child.kind ≠ .comment := by
  rw [Node.items, List.mem_filter]
  refine and_congr_right fun listed => ?_
  simp [Node.isItem, form.named child listed]

theorem mem_children_of_items {clause : Node} {rest : List Node}
    (items : heritage.items = clause :: rest) : clause ∈ heritage.children := by
  have listed : clause ∈ heritage.items := by
    rw [items]
    exact List.mem_cons_self
  exact ((mem_items_iff form clause).mp listed).1

theorem extends_of_items {clause : Node} {rest : List Node}
    (items : heritage.items = clause :: rest) (kind : clause.kind = .extendsClause)
    (others : ∀ other ∈ rest, other.kind = implementsClause) :
    baseClause heritage = clause ∧ ∀ child,
      child ∈ heritage.children ∧ child.kind = .extendsClause ↔ child = clause := by
  constructor
  · rw [baseClause_eq, items, List.find?_cons, kind]
    rfl
  · intro child
    constructor
    · rintro ⟨listed, isExtends⟩
      have item := (mem_items_iff form child).mpr ⟨listed, by rw [isExtends]; exact nofun⟩
      rw [items, List.mem_cons] at item
      rcases item with same | other
      · exact same
      · cases isExtends.symm.trans (others child other)
    · rintro rfl
      exact ⟨mem_children_of_items form items, kind⟩

theorem implements_of_items {clause : Node} (alone : heritage.items = [clause])
    (kind : clause.kind = implementsClause) :
    baseClause heritage = heritage ∧
      (∀ child, child ∈ heritage.children ∧ child.kind = implementsClause ↔ child = clause) ∧
        ∀ child, ¬ (child ∈ heritage.children ∧ child.kind = .extendsClause) := by
  have only (child : Node) (listed : child ∈ heritage.children)
      (content : child.kind ≠ .comment) : child = clause := by
    have item := (mem_items_iff form child).mpr ⟨listed, content⟩
    rwa [alone, List.mem_singleton] at item
  refine ⟨?_, fun child => ⟨?_, ?_⟩, ?_⟩
  · rw [baseClause_eq, alone, List.find?_cons, kind]
    rfl
  · rintro ⟨listed, isImplements⟩
    exact only child listed (by rw [isImplements]; exact nofun)
  · rintro rfl
    exact ⟨mem_children_of_items form alone, kind⟩
  · rintro child ⟨listed, isExtends⟩
    cases only child listed (by rw [isExtends]; exact nofun)
    cases kind.symm.trans isExtends

/-- The heritage has an extends clause, and only one, or it is an implements clause alone. -/
theorem clause_cases :
    (∃ clause, baseClause heritage = clause ∧ ∀ child,
      child ∈ heritage.children ∧ child.kind = .extendsClause ↔ child = clause) ∨
    ∃ clause, heritage.items = [clause] ∧ clause.kind = implementsClause := by
  have clauses := form.clauses
  simp only [List.mem_cons, List.not_mem_nil, or_false] at clauses
  rcases clauses with one | alone | both
  · obtain ⟨clause, items, kind⟩ := List.map_eq_singleton_iff.mp one
    exact .inl ⟨clause, extends_of_items form items kind nofun⟩
  · obtain ⟨clause, items, kind⟩ := List.map_eq_singleton_iff.mp alone
    exact .inr ⟨clause, items, kind⟩
  · obtain ⟨clause, rest, items, kind, others⟩ := List.map_eq_cons_iff.mp both
    obtain ⟨other, rfl, otherKind⟩ := List.map_eq_singleton_iff.mp others
    refine .inl ⟨clause, extends_of_items form items kind fun child listed => ?_⟩
    rw [List.mem_singleton.mp listed, otherKind]

/-- What is named in an implements clause that stands alone is all that is named in the heritage. -/
theorem namedIn_iff_of_alone {source : Source} {names : List String} {clause : Node}
    (kind : heritage.kind = .classHeritage) (alone : heritage.items = [clause]) :
    NamedIn source names heritage ↔ NamedIn source names clause := by
  have among := mem_children_of_items form alone
  constructor
  · rintro ⟨node, within, isName, listed⟩
    rcases Node.within_iff_child.mp within with rfl | ⟨child, below, within⟩
    · rw [kind] at isName
      cases isName
    · by_cases comment : child.kind = .comment
      · rcases Node.within_iff_child.mp within with rfl | ⟨deeper, below', -⟩
        · rw [comment] at isName
          cases isName
        · rw [form.comments child below comment] at below'
          cases below'
      · have item := (mem_items_iff form child).mpr ⟨below, comment⟩
        rw [alone, List.mem_singleton] at item
        exact ⟨node, item ▸ within, isName, listed⟩
  · rintro ⟨node, within, found⟩
    exact ⟨node, Node.within_iff_child.mpr (.inr ⟨clause, among, within⟩), found⟩

end Heritage

section Clauses

variable {cls : Node} (form : ClassForm cls)

include form

theorem not_hasClause_of_none (none : heritage? cls = none) (kind : Kind) (clause : Node) :
    ¬ HasClause cls kind clause := by
  rintro ⟨heritage, listed, isHeritage, -⟩
  cases none.symm.trans ((heritage?_eq_some_iff form heritage).mpr ⟨listed, isHeritage⟩)

theorem hasClause_iff {heritage : Node} (first : heritage? cls = some heritage) (kind : Kind)
    (clause : Node) :
    HasClause cls kind clause ↔ clause ∈ heritage.children ∧ clause.kind = kind := by
  constructor
  · rintro ⟨other, listed, isHeritage, below⟩
    have again := (heritage?_eq_some_iff form other).mpr ⟨listed, isHeritage⟩
    cases first.symm.trans again
    exact below
  · intro below
    obtain ⟨listed, isHeritage⟩ := (heritage?_eq_some_iff form heritage).mp first
    exact ⟨heritage, listed, isHeritage, below⟩

end Clauses

/-- A class is an element if a base class is named in its extends clause, or in its implements
clause when it extends nothing. -/
theorem isElement_iff_named_in_clause (source : Source) (names : List String) (cls : Node)
    (form : ClassForm cls) :
    isElement source names cls = true ↔
      (∃ clause, HasClause cls .extendsClause clause ∧ NamedIn source names clause) ∨
        (∀ clause, ¬ HasClause cls .extendsClause clause) ∧
          ∃ clause, HasClause cls implementsClause clause ∧ NamedIn source names clause := by
  rw [isElement]
  cases first : heritage? cls with
  | none => simp [not_hasClause_of_none form first]
  | some heritage =>
    obtain ⟨listed, isHeritage⟩ := (heritage?_eq_some_iff form heritage).mp first
    have shape := form.heritage heritage listed isHeritage
    simp only [Option.any_some, mentions_iff, hasClause_iff form first]
    rcases clause_cases shape with ⟨clause, base, isExtends⟩ | ⟨clause, alone, kind⟩
    · have extended : ¬ ∀ child, ¬ child = clause := fun none => none clause rfl
      simp only [isExtends, base, exists_eq_left, extended, false_and, or_false]
    · -- without an extends clause the whole heritage is searched
      obtain ⟨base, isImplements, noExtends⟩ := implements_of_items shape alone kind
      simp only [base, noExtends, isImplements, false_and, exists_false, not_false_eq_true,
        implies_true, true_and, false_or, exists_eq_left]
      exact namedIn_iff_of_alone shape isHeritage alone

def mixedInSource : Source :=
  .ofString "class A extends lit.Mixin(LitElement) implements Other\x7b\x7d"

def mixedIn : Node := (Node.ofRows? [
  namedRow .classDeclaration 3 0 56 none,
  namedRow .typeIdentifier 0 6 7 (some .name),
  namedRow .classHeritage 2 8 54 none,
  namedRow .extendsClause 1 8 37 none,
  namedRow .callExpression 2 16 37 (some .value),
  namedRow .memberExpression 2 16 25 (some .function),
  namedRow .identifier 0 16 19 (some .object),
  namedRow .propertyIdentifier 0 20 25 (some .property),
  namedRow (.other "arguments") 1 25 37 (some .arguments),
  namedRow .identifier 0 26 36 none,
  namedRow (.other "implements_clause") 1 38 54 none,
  namedRow .typeIdentifier 0 49 54 none,
  namedRow (.other "class_body") 0 54 56 (some .body)]).getD default

/-- The base class is an argument of a mixin. What the class implements does not count. -/
theorem isElement_iff_named_in_clause_mixedIn :
    ClassForm mixedIn ∧ isElement mixedInSource ["LitElement"] mixedIn = true ∧
      ¬ ∃ clause, HasClause mixedIn .extendsClause clause ∧
        NamedIn mixedInSource ["Other"] clause := by
  have form : ClassForm mixedIn := by decide +kernel
  have named : (mixedIn.namedChildren.any fun heritage => heritage.kind == .classHeritage &&
      heritage.children.any fun clause => clause.kind == .extendsClause &&
        mentions mixedInSource ["LitElement"] clause) = true := by decide +kernel
  simp only [List.any_eq_true, Bool.and_eq_true, beq_iff_eq, mentions_iff] at named
  obtain ⟨heritage, listed, isHeritage, clause, below, isExtends, found⟩ := named
  have has : HasClause mixedIn .extendsClause clause :=
    ⟨heritage, listed, isHeritage, below, isExtends⟩
  refine ⟨form, (isElement_iff_named_in_clause _ _ _ form).mpr (.inl ⟨clause, has, found⟩), ?_⟩
  intro other
  have element := (isElement_iff_named_in_clause _ _ _ form).mpr (.inl other)
  have plain : isElement mixedInSource ["Other"] mixedIn = false := by decide +kernel
  cases element.symm.trans plain

def implementsOnlySource : Source := .ofString "class A implements LitElement\x7b\x7d"

def implementsOnly : Node := (Node.ofRows? [
  namedRow .classDeclaration 3 0 31 none,
  namedRow .typeIdentifier 0 6 7 (some .name),
  namedRow .classHeritage 1 8 29 none,
  namedRow (.other "implements_clause") 1 8 29 none,
  namedRow .typeIdentifier 0 19 29 none,
  namedRow (.other "class_body") 0 29 31 (some .body)]).getD default

/-- A class that only implements a base class is taken for an element, although it extends
nothing. -/
theorem implements_clause_makes_element :
    ClassForm implementsOnly ∧ isElement implementsOnlySource ["LitElement"] implementsOnly = true ∧
      ∀ clause, ¬ HasClause implementsOnly .extendsClause clause := by
  refine ⟨by decide +kernel, by decide +kernel, ?_⟩
  have none : (implementsOnly.namedChildren.all fun heritage =>
      heritage.children.all fun clause => clause.kind != .extendsClause) = true := by
    decide +kernel
  simp only [List.all_eq_true, bne_iff_ne] at none
  rintro clause ⟨heritage, listed, -, below, isExtends⟩
  exact none heritage listed clause below isExtends

end Element

end ReactiveProps
