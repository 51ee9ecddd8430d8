import ReactiveProps.Proofs.Concatenation
import ReactiveProps.Proofs.MemberGroups
import ReactiveProps.Proofs.Surroundings

/-!
# No declaration belongs to two classes

A class reads the members in its body with their decorators, the entries of the object that a static
member holds and the right-hand sides of the assignments in its constructor. All of these stand in
its own body and in no class body below that, so that two classes share none of them, however they
are nested. In particular no two classes are rejected for the same node.
-/
namespace ReactiveProps

namespace SyntaxTree

theorem Node.mem_children_of_mem_items {node item : Node} (listed : item ∈ node.items) :
    item ∈ node.children :=
  (List.mem_filter.mp listed).1

theorem Node.exists_of_mem_itemsOf {node item : Node} {field : Field}
    (listed : item ∈ node.itemsOf field) :
    ∃ child, node.child? field = some child ∧ item ∈ child.children := by
  unfold Node.itemsOf at listed
  cases labelled : node.child? field with
  | none =>
    rw [labelled] at listed
    cases listed
  | some child =>
    rw [labelled] at listed
    exact ⟨child, rfl, mem_children_of_mem_items listed⟩

theorem Node.exists_of_thisAssignment? {statement name value : Node}
    (assigns : statement.thisAssignment? = some (name, value)) :
    statement.kind = .expressionStatement ∧ ∃ assignment ∈ statement.children,
      assignment.kind = .assignmentExpression ∧ assignment.child? .right = some value := by
  cases thisAssignment?_eq_some_iff.mp assigns with
  | @intro assignment _ _ _ _ expression alone assigning _ rightSide =>
    have listed : assignment ∈ statement.items := by
      rw [alone]
      exact List.mem_cons_self
    exact ⟨expression, assignment, mem_children_of_mem_items listed, assigning, rightSide⟩

namespace Site

/-- A child of a node with the children before it, nearest first. -/
theorem mem_childrenFrom_iff {parent : Node} {earlier nodes : List Node} {site : Site} :
    site ∈ childrenFrom parent earlier nodes ↔ site.parent = some parent ∧ ∃ before after,
      nodes = before ++ site.node :: after ∧ site.earlier = before.reverse ++ earlier := by
  induction nodes generalizing earlier with
  | nil => simp [childrenFrom]
  | cons child rest ih =>
    rw [childrenFrom, List.mem_cons, ih]
    constructor
    · rintro (rfl | ⟨above, before, after, rfl, front⟩)
      · exact ⟨rfl, [], rest, rfl, rfl⟩
      · exact ⟨above, child :: before, after, rfl, by simp [front]⟩
    · rintro ⟨above, before, after, split, front⟩
      cases before with
      | nil =>
        obtain ⟨node, up, early⟩ := site
        cases split
        cases above
        cases front
        exact .inl rfl
      | cons first before =>
        cases split
        exact .inr ⟨above, before, after, rfl, by simpa using front⟩

/-- The siblings before a child are children too. -/
theorem mem_of_mem_childrenFrom {parent : Node} {earlier nodes : List Node} {site : Site}
    (listed : site ∈ childrenFrom parent earlier nodes) :
    site.node ∈ nodes ∧ ∀ sibling ∈ site.earlier, sibling ∈ earlier ∨ sibling ∈ nodes := by
  obtain ⟨-, before, after, rfl, front⟩ := mem_childrenFrom_iff.mp listed
  refine ⟨List.mem_append_right before List.mem_cons_self, fun sibling early => ?_⟩
  rw [front, List.mem_append, List.mem_reverse] at early
  rcases early with inside | outside
  · exact .inr (List.mem_append_left _ inside)
  · exact .inl outside

theorem mem_earlier_of_mem_precedingDecorators {site : Site} {decorator : Node}
    (listed : decorator ∈ site.precedingDecorators) : decorator ∈ site.earlier := by
  have run := (List.mem_filter.mp (List.mem_reverse.mp listed)).1
  have named : decorator ∈ site.earlierNamed := List.takeWhile_sublist _ |>.subset run
  exact (List.mem_filter.mp named).1

/-- A decorator of a member stands before it or in it. -/
theorem cases_of_memberDecorator {member : Site} {decorator : Node}
    (attached : decorator ∈ member.memberDecorators) :
    decorator ∈ member.earlier ∨ decorator ∈ member.node.children := by
  unfold memberDecorators at attached
  split at attached
  · rcases List.mem_append.mp attached with before | own
    · exact .inl (mem_earlier_of_mem_precedingDecorators before)
    · exact .inr (List.mem_filter.mp own).1
  · exact .inr (List.mem_filter.mp attached).1

end Site

/-- The members of a class and their siblings are children of its body. -/
theorem exists_body_of_mem_classMembers {cls : Node} {member : Site}
    (listed : member ∈ cls.classMembers) :
    ∃ body, cls.child? .body = some body ∧ member.node ∈ body.children ∧
      ∀ sibling ∈ member.earlier, sibling ∈ body.children := by
  unfold Node.classMembers Site.classMembers at listed
  have labelled : ((Site.root cls).child? .body).map Site.node = cls.child? .body :=
    Site.map_node_child? _ _
  cases found : (Site.root cls).child? .body with
  | none =>
    rw [found] at listed
    cases listed
  | some body =>
    rw [found] at listed labelled
    have item := (List.mem_filter.mp listed).1
    obtain ⟨inside, siblings⟩ := Site.mem_of_mem_childrenFrom (List.mem_filter.mp item).1
    refine ⟨body.node, labelled.symm, inside, ?_⟩
    intro sibling before
    rcases siblings sibling before with outside | below
    · cases outside
    · exact below

end SyntaxTree

namespace Element

open SyntaxTree Property

/-- The nodes that a class reads as its declarations. -/
inductive Claims (source : Source) (cls : Node) : Node → Prop
  | member {member : Site} (listed : member ∈ cls.classMembers) : Claims source cls member.node
  | decorator {member : Site} {decorator : Node} (listed : member ∈ cls.classMembers)
      (attached : decorator ∈ member.memberDecorators) : Claims source cls decorator
  | entry {member : Site} {object entry : Node} (listed : member ∈ cls.classMembers)
      (holds : HoldsObject member.node object) (inside : entry ∈ object.items) :
      Claims source cls entry
  | hint {name : String} {value : Node}
      (assigned : (name, value) ∈ constructorAssignments source cls) : Claims source cls value

theorem kind_of_holdsObject {member object : Node} (holds : HoldsObject member object) :
    object.kind = .object := by
  cases holds with
  | value _ _ literal => exact literal
  | returned _ _ _ _ literal => exact literal

/-- A hint from the constructor is assigned by a statement of a method of the class. -/
theorem exists_statement_of_hint {source : Source} {cls value : Node} {name : String}
    (assigned : (name, value) ∈ constructorAssignments source cls) :
    ∃ member ∈ cls.classMembers, member.node.kind = .methodDefinition ∧
      ∃ statement ∈ member.node.itemsOf .body, ∃ field,
        statement.thisAssignment? = some (field, value) := by
  unfold constructorAssignments at assigned
  cases found : constructor? source cls with
  | none =>
    rw [found] at assigned
    cases assigned
  | some method =>
    rw [found] at assigned
    obtain ⟨statement, inside, reads⟩ := List.mem_filterMap.mp assigned
    obtain ⟨⟨field, right⟩, assigns, same⟩ := Option.map_eq_some_iff.mp reads
    cases same
    have isConstructor : method.isConstructor source = true := by
      simpa using List.find?_some found
    obtain ⟨member, listed, rfl⟩ := List.mem_map.mp (List.mem_of_find?_eq_some found)
    have isMethod := beq_iff_eq.mp (Bool.and_eq_true_iff.mp isConstructor).1
    exact ⟨member, listed, isMethod, statement, inside, field, assigns⟩

theorem exists_body_of_claims {source : Source} {cls node : Node}
    (claims : Claims source cls node) : ∃ body, cls.child? .body = some body := by
  have ofMember {member : Site} (listed : member ∈ cls.classMembers) :
      ∃ body, cls.child? .body = some body := by
    obtain ⟨body, labelled, -⟩ := exists_body_of_mem_classMembers listed
    exact ⟨body, labelled⟩
  cases claims with
  | member listed => exact ofMember listed
  | decorator listed _ => exact ofMember listed
  | entry listed _ _ => exact ofMember listed
  | hint assigned =>
    obtain ⟨member, listed, -⟩ := exists_statement_of_hint assigned
    exact ofMember listed

variable {root : Node} (wellFormed : WellFormed root) {body : Node}

include wellFormed

theorem nearestBody_of_statement {method statement : Node}
    (isMethod : method.kind = .methodDefinition) (nearest : NearestBody root method body)
    (listed : statement ∈ method.itemsOf .body) : NearestBody root statement body := by
  obtain ⟨block, labelled, inside⟩ := Node.exists_of_mem_itemsOf listed
  have kind := wellFormed.methodBodies method nearest.mem isMethod block labelled
  have within : NearestBody root block body :=
    nearest.child wellFormed (by rw [isMethod]; decide) (mem_children_of_child? labelled)
  exact within.child wellFormed (by rw [kind]; decide) inside

theorem nearestBody_of_heldObject {member object : Node} (nearest : NearestBody root member body)
    (holds : HoldsObject member object) : NearestBody root object body := by
  cases holds with
  | value field value =>
    refine nearest.child wellFormed ?_ (mem_children_of_child? value)
    intro other
    rw [other] at field
    cases field
  | @returned statement _ getter last returns first =>
    have isMethod : member.kind = .methodDefinition :=
      beq_iff_eq.mp (Bool.and_eq_true_iff.mp getter).1
    have within := nearestBody_of_statement wellFormed isMethod nearest
      (List.mem_of_getLast? last)
    refine within.child wellFormed (by rw [returns]; decide) ?_
    exact Node.mem_children_of_mem_items (List.mem_of_head? first)

section OfClass

variable {source : Source} {cls : Node} (labelled : cls.child? .body = some body)
  (isBody : IsClassBody root body)

include labelled isBody

omit wellFormed in
theorem nearestBody_of_member {member : Site} (listed : member ∈ cls.classMembers) :
    NearestBody root member.node body ∧
      ∀ sibling ∈ member.earlier, NearestBody root sibling body := by
  obtain ⟨found, labelled', below, siblings⟩ := exists_body_of_mem_classMembers listed
  cases labelled.symm.trans labelled'
  exact ⟨.inside isBody below, fun sibling before => .inside isBody (siblings sibling before)⟩

theorem nearestBody_of_memberDecorator {member : Site} (listed : member ∈ cls.classMembers)
    {decorator : Node} (attached : decorator ∈ member.memberDecorators) :
    NearestBody root decorator body := by
  obtain ⟨found, labelled', below, -⟩ := exists_body_of_mem_classMembers listed
  cases labelled.symm.trans labelled'
  obtain ⟨nearest, siblings⟩ := nearestBody_of_member labelled isBody listed
  rcases Site.cases_of_memberDecorator attached with before | own
  · exact siblings decorator before
  · exact .through (not_isClassBody_of_child wellFormed isBody below) own nearest

theorem nearestBody_of_hint {name : String} {value : Node}
    (assigned : (name, value) ∈ constructorAssignments source cls) :
    NearestBody root value body := by
  obtain ⟨member, listed, isMethod, statement, inside, field, assigns⟩ :=
    exists_statement_of_hint assigned
  obtain ⟨isStatement, assignment, below, isAssignment, rightSide⟩ :=
    Node.exists_of_thisAssignment? assigns
  have nearest := (nearestBody_of_member labelled isBody listed).1
  have within := nearestBody_of_statement wellFormed isMethod nearest inside
  have deeper : NearestBody root assignment body :=
    within.child wellFormed (by rw [isStatement]; decide) below
  exact deeper.child wellFormed (by rw [isAssignment]; decide) (mem_children_of_child? rightSide)

/-- What a class claims stands in its own body, and in no class body below that. -/
theorem nearestBody_of_claims {node : Node} (claims : Claims source cls node) :
    NearestBody root node body := by
  cases claims with
  | member listed => exact (nearestBody_of_member labelled isBody listed).1
  | decorator listed attached =>
    exact nearestBody_of_memberDecorator wellFormed labelled isBody listed attached
  | entry listed holds inside =>
    have nearest := (nearestBody_of_member labelled isBody listed).1
    have within := nearestBody_of_heldObject wellFormed nearest holds
    refine within.child wellFormed ?_ (Node.mem_children_of_mem_items inside)
    rw [kind_of_holdsObject holds]
    decide
  | hint assigned => exact nearestBody_of_hint wellFormed labelled isBody assigned

end OfClass

/-- Two classes claim no node both. -/
theorem id_ne_of_claims {source : Source} {cls other : Site}
    (listed : cls ∈ classesAt (.root root)) (listedToo : other ∈ classesAt (.root root))
    (differ : cls.node ≠ other.node) {node node' : Node}
    (claims : Claims source cls.node node) (claims' : Claims source other.node node') :
    node.id ≠ node'.id := by
  obtain ⟨body, labelled⟩ := exists_body_of_claims claims
  obtain ⟨body', labelled'⟩ := exists_body_of_claims claims'
  have nearest := nearestBody_of_claims wellFormed labelled ⟨cls, listed, labelled⟩ claims
  have nearest' := nearestBody_of_claims wellFormed labelled' ⟨other, listedToo, labelled'⟩ claims'
  intro same
  obtain rfl := Node.eq_of_id_eq wellFormed.distinct nearest.mem nearest'.mem same
  obtain rfl := nearestBody_unique wellFormed nearest nearest'
  exact differ (class_unique wellFormed listed listedToo labelled labelled')

end Element

def Diagnostic.place? (diagnostic : Diagnostic) : Option Nat :=
  diagnostic.range.bind (·.node)

namespace Property

open SyntaxTree Typing Element

variable {settings : Settings} {source : Source} {cls : Node}

theorem exists_of_selectedStatic? {member : Node}
    (selected : selectedStatic? settings source cls = some member) :
    ∃ site ∈ cls.classMembers, site.node = member := by
  obtain ⟨⟨name, node⟩, candidate, rfl⟩ := Option.map_eq_some_iff.mp selected
  obtain ⟨site, listed, plays⟩ := List.exists_of_findSome?_eq_some candidate
  refine ⟨site, listed, ?_⟩
  have undecorated := (Option.filter_eq_some_iff.mp plays).1
  unfold undecoratedMember? at undecorated
  split at undecorated
  · obtain ⟨declared, -, same⟩ := Option.map_eq_some_iff.mp undecorated
    exact (Prod.mk.inj same).2
  · cases undecorated

theorem claims_of_mem_decoratedMembers {found : DecoratedMember}
    (listed : found ∈ decoratedMembers settings source cls) : Claims source cls found.member := by
  obtain ⟨member, inside, reads⟩ := List.mem_filterMap.mp listed
  rw [(decoratedMember?_eq_some_iff.mp reads).2.2]
  exact .member inside

/-- The node that lends its type to an entry is a member or assigned in the constructor. -/
theorem claims_of_hint? {name : String} {hint : Node}
    (hinted : hint? settings source cls name = some hint) : Claims source cls hint := by
  rcases Option.or_eq_some_iff.mp hinted with lent | ⟨-, assigned⟩
  · obtain ⟨member, inside, reads⟩ := List.mem_filterMap.mp (mem_of_lastValue? lent)
    rw [(hintMember?_eq_some_iff.mp reads).2]
    exact .member inside
  · obtain ⟨⟨field, value⟩, found, rfl⟩ := Option.map_eq_some_iff.mp assigned
    exact .hint (List.mem_of_find?_eq_some found)

/-- A class fails for a node that it claims if its resolver does no more than break down. -/
theorem claims_of_fault {resolver : Resolver} (only : OnlyCrashes resolver)
    {error : ExtractionError} (fault : Fault settings resolver source cls error) :
    ∃ problem node, error = .rejected (.about problem node) ∧ Claims source cls node := by
  cases fault with
  | name first =>
    obtain ⟨member, listed, -, same⟩ := first.exists_mem
    exact ⟨_, _, same, .member listed⟩
  | type _ first =>
    obtain ⟨found, listed, failed⟩ := first.exists_mem
    obtain ⟨problem, same⟩ := only.about_of_typeFault failed
    exact ⟨problem, _, same, claims_of_mem_decoratedMembers listed⟩
  | static _ _ first =>
    cases first with
    | form selected _ =>
      obtain ⟨member, listed, rfl⟩ := exists_of_selectedStatic? selected
      exact ⟨_, _, rfl, .member listed⟩
    | entry selected holds first =>
      obtain ⟨member, listed, rfl⟩ := exists_of_selectedStatic? selected
      obtain ⟨entry, inside, failed⟩ := first.exists_mem
      cases failed with
      | form _ => exact ⟨_, _, rfl, .entry listed holds inside⟩
      | type _ hinted failed =>
        obtain ⟨problem, same⟩ := only.about_of_typeFault failed
        exact ⟨problem, _, same, claims_of_hint? hinted⟩

end Property

namespace Analysis

open SyntaxTree Typing Property Element

variable {settings : Settings} {source : Source} {path : Option String}

/-- The error about a rejected class is located at a node that the class claims. -/
theorem place?_skipped {cls : Site} {error : ClassError}
    (rejected : rejection? settings syntactic source path cls = some error) :
    ∃ node, Claims source cls.node node ∧ (skipped source path cls error).place? = some node.id := by
  have ends := rejection?_eq_some_iff.mp rejected
  have fault := (outcome_properties_eq_error_iff settings syntactic source cls.node path _).mp ends
  obtain ⟨problem, node, same, claims⟩ := claims_of_fault onlyCrashes_syntactic fault
  cases same
  exact ⟨node, claims, rfl⟩

theorem errorsOf_gathered (resolver : Resolver) (definitions : OrderedMap String String)
    (classes : List Site) :
    errorsOf (gathered settings resolver source path definitions classes) =
      classes.filterMap fun cls =>
        (rejection? settings resolver source path cls).map (skipped source path cls) := by
  rw [List.filterMap_eq_flatMap_toList, errorsOf, gathered, List.filter_flatMap]
  refine List.flatMap_congr fun cls _ => ?_
  exact errors_findings cls

variable (settings source) in
theorem pairwise_elementSites {root : Node} (distinct : root.Distinct) :
    (elementSites settings source root).Pairwise fun cls other =>
      cls.node.id ≠ other.node.id := by
  rw [Node.Distinct, ← Node.walk_eq_preorder, Node.walk, List.map_map, List.Nodup,
    List.pairwise_map] at distinct
  exact distinct.sublist List.filter_sublist

/-- The errors of a lenient run are located at nodes of their own. -/
theorem nodup_places {tree : Parse} (wellFormed : WellFormed tree.root) {module : Module}
    (returned : (analyzeParsed ⟨syntactic, false⟩ settings path ⟨source, tree⟩).result =
      .ok module) :
    ((errorsOf module).map Diagnostic.place?).Nodup ∧
      ∀ diagnostic ∈ errorsOf module, diagnostic.place?.isSome = true := by
  obtain ⟨-, rfl⟩ := of_result_ok neverAborts_syntactic returned
  have apart := pairwise_elementSites settings source wellFormed.distinct
  have located : ∀ cls diagnostic, (rejection? settings syntactic source path cls).map
      (skipped source path cls) = some diagnostic →
        ∃ node, Claims source cls.node node ∧ diagnostic.place? = some node.id := by
    intro cls diagnostic gives
    obtain ⟨error, rejected, rfl⟩ := Option.map_eq_some_iff.mp gives
    exact place?_skipped rejected
  have isClass : ∀ cls ∈ elementSites settings source tree.root,
      cls ∈ classesAt (.root tree.root) := by
    rw [elementSites_eq_filter_classesAt]
    exact fun cls listed => (List.mem_filter.mp listed).1
  rw [lenientModule, errorsOf_gathered]
  constructor
  · rw [List.Nodup, List.pairwise_map, List.pairwise_filterMap]
    refine apart.imp_of_mem fun {cls other} listed listedToo differ => ?_
    intro diagnostic gives diagnostic' gives' same
    obtain ⟨node, claims, place⟩ := located cls diagnostic gives
    obtain ⟨node', claims', place'⟩ := located other diagnostic' gives'
    rw [place, place', Option.some.injEq] at same
    have others : cls.node ≠ other.node := fun same => differ (congrArg Node.id same)
    exact id_ne_of_claims wellFormed (isClass cls listed) (isClass other listedToo) others claims
      claims' same
  · intro diagnostic listed
    obtain ⟨cls, -, gives⟩ := List.mem_filterMap.mp listed
    obtain ⟨node, -, place⟩ := located cls diagnostic gives
    rw [place, Option.isSome_some]

/-- Each class claims nodes that stand right in its own body, no two classes claim the same node, and
so no two errors of a lenient run are located at the same node. -/
theorem no_declaration_claimed_twice {tree : Parse} (wellFormed : WellFormed tree.root)
    (source : Source) :
    (∀ cls ∈ classesAt (.root tree.root), ∀ node, Claims source cls.node node →
      ∃ body, cls.node.child? .body = some body ∧
        ∀ other, NearestBody tree.root node other ↔ other = body) ∧
    (∀ cls ∈ classesAt (.root tree.root), ∀ other ∈ classesAt (.root tree.root),
      cls.node ≠ other.node → ∀ node node', Claims source cls.node node →
        Claims source other.node node' → node.id ≠ node'.id) ∧
    ∀ settings path module,
      (analyzeParsed ⟨syntactic, false⟩ settings path ⟨source, tree⟩).result = .ok module →
        ((errorsOf module).map Diagnostic.place?).Nodup ∧
          ∀ diagnostic ∈ errorsOf module, diagnostic.place?.isSome = true := by
  refine ⟨?_, ?_, fun settings path module returned => nodup_places wellFormed returned⟩
  · intro cls listed node claims
    obtain ⟨body, labelled⟩ := exists_body_of_claims claims
    have nearest := nearestBody_of_claims wellFormed labelled ⟨cls, listed, labelled⟩ claims
    refine ⟨body, labelled, fun other => ⟨fun nearest' => ?_, ?_⟩⟩
    · exact nearestBody_unique wellFormed nearest' nearest
    · rintro rfl
      exact nearest
  · intro cls listed other listedToo differ node node' claims claims'
    exact id_ne_of_claims wellFormed listed listedToo differ claims claims'

/-- The class `A` with a class expression as the value of a field. Both classes have a field whose
name is no plain name. -/
def nestedClasses : Parsed where
  source := .ofString
    "class A extends LitElement\x7b\"a\"=class extends LitElement\x7b\"b\"=1\x7d\x7d"
  tree := ⟨(Node.ofRows? [
    namedRow (.other "program") 1 0 63 none,
    namedRow .classDeclaration 3 0 63 none,
    namedRow .typeIdentifier 0 6 7 (some .name),
    namedRow .classHeritage 1 8 26 none,
    namedRow .extendsClause 1 8 26 none,
    namedRow .identifier 0 16 26 (some .value),
    namedRow (.other "class_body") 1 26 63 (some .body),
    namedRow .publicFieldDefinition 2 27 62 none,
    namedRow .stringLiteral 0 27 30 (some .name),
    namedRow .classWord 2 31 62 (some .value),
    namedRow .classHeritage 1 37 55 none,
    namedRow .extendsClause 1 37 55 none,
    namedRow .identifier 0 45 55 (some .value),
    namedRow (.other "class_body") 1 55 62 (some .body),
    namedRow .publicFieldDefinition 2 56 61 none,
    namedRow .stringLiteral 0 56 59 (some .name),
    namedRow .number 0 60 61 (some .value)]).getD default, false⟩

theorem no_declaration_claimed_twice_nestedClasses :
    WellFormed nestedClasses.tree.root ∧ ∃ module,
      (analyzeParsed ⟨syntactic, false⟩ Configuration.default.settings none nestedClasses).result =
        .ok module ∧
      (errorsOf module).map Diagnostic.place? = [some 7, some 14] ∧
      ((errorsOf module).map Diagnostic.place?).Nodup := by
  have wellFormed : WellFormed nestedClasses.tree.root := by decide +kernel
  obtain ⟨-, -, places⟩ := no_declaration_claimed_twice wellFormed nestedClasses.source
  have reported : ((analyzeParsed ⟨syntactic, false⟩ Configuration.default.settings none
      nestedClasses).result.toOption.map fun module =>
        (errorsOf module).map Diagnostic.place?) = some [some 7, some 14] := by decide +kernel
  obtain ⟨module, kept, located⟩ := Option.map_eq_some_iff.mp reported
  have returned := toOption_eq_some_iff.mp kept
  exact ⟨wellFormed, module, returned, located, (places _ none module returned).1⟩

end Analysis

end ReactiveProps
