import ReactiveProps.Proofs.Heritage
import ReactiveProps.Proofs.Ownership
import ReactiveProps.Proofs.Positions

/-!
# Where diagnostics point

What is said about a class is located at a node that the class claims. Such a node is inside the
class, and so is its range wherever the byte ranges of a tree are nested.
-/
namespace ReactiveProps

namespace SyntaxTree

/-- The byte ranges of the nodes have their ends in order, and each lies within that of the parent
and within the source. -/
structure Nested (source : Source) (root : Node) : Prop where
  inside : root.span.stop ≤ source.bytes.size
  ordered : ∀ node ∈ root.preorder, node.span.start ≤ node.span.stop
  children : ∀ parent ∈ root.preorder, ∀ child ∈ parent.children,
    parent.span.start ≤ child.span.start ∧ child.span.stop ≤ parent.span.stop

instance (source : Source) (root : Node) : Decidable (Nested source root) :=
  decidable_of_iff (root.span.stop ≤ source.bytes.size ∧
      (∀ node ∈ root.preorder, node.span.start ≤ node.span.stop) ∧
      ∀ parent ∈ root.preorder, ∀ child ∈ parent.children,
        parent.span.start ≤ child.span.start ∧ child.span.stop ≤ parent.span.stop)
    ⟨fun ⟨inside, ordered, children⟩ => ⟨inside, ordered, children⟩,
      fun ⟨inside, ordered, children⟩ => ⟨inside, ordered, children⟩⟩

section Nested

variable {source : Source} {root outer inner : Node} (nested : Nested source root)

include nested

theorem Nested.span_within (listed : outer ∈ root.preorder) (within : outer.Within inner) :
    outer.span.start ≤ inner.span.start ∧ inner.span.stop ≤ outer.span.stop := by
  induction within with
  | refl => exact ⟨le_rfl, le_rfl⟩
  | @tail parent child reaches below ih =>
    have parentListed : parent ∈ root.preorder :=
      Node.mem_preorder_iff_within.mpr ((Node.mem_preorder_iff_within.mp listed).trans reaches)
    obtain ⟨starts, stops⟩ := nested.children parent parentListed child below
    exact ⟨ih.1.trans starts, stops.trans ih.2⟩

theorem Nested.liesIn (listed : outer ∈ root.preorder) (within : outer.Within inner) :
    (SourceRange.ofNode source inner).LiesIn (.ofNode source outer) := by
  have reached : root.Within outer := Node.mem_preorder_iff_within.mp listed
  have ordered := nested.ordered inner (Node.mem_preorder_iff_within.mpr (reached.trans within))
  obtain ⟨first, last⟩ := nested.span_within listed within
  obtain ⟨-, inRoot⟩ := nested.span_within (Node.mem_preorder_self root) reached
  exact SourceRange.liesIn_ofNode first ordered last (inRoot.trans nested.inside)

end Nested

namespace Node

variable {top node child : Node}

theorem Within.below (within : top.Within node) (below : child ∈ node.children) :
    top.Within child :=
  Relation.ReflTransGen.tail within below

theorem Within.child? (within : top.Within node) {field : Field}
    (labelled : node.child? field = some child) : top.Within child :=
  within.below (Element.mem_children_of_child? labelled)

theorem Within.itemsOf (within : top.Within node) {field : Field}
    (listed : child ∈ node.itemsOf field) : top.Within child := by
  obtain ⟨holder, labelled, inside⟩ := exists_of_mem_itemsOf listed
  exact (within.child? labelled).below inside

end Node

end SyntaxTree

namespace Element

open SyntaxTree Property

variable {source : Source} {cls : Node}

theorem within_of_member {member : Site} (listed : member ∈ cls.classMembers) :
    cls.Within member.node ∧ ∀ sibling ∈ member.earlier, cls.Within sibling := by
  obtain ⟨body, labelled, below, siblings⟩ := exists_body_of_mem_classMembers listed
  have inBody : cls.Within body := Node.Within.child? .refl labelled
  exact ⟨inBody.below below, fun sibling before => inBody.below (siblings sibling before)⟩

theorem within_of_heldObject {member object : Node} (within : cls.Within member)
    (holds : HoldsObject member object) : cls.Within object := by
  cases holds with
  | value _ value => exact within.child? value
  | returned _ last _ first =>
    have statement := within.itemsOf (List.mem_of_getLast? last)
    exact statement.below (Node.mem_children_of_mem_items (List.mem_of_head? first))

theorem within_of_hint {name : String} {value : Node}
    (assigned : (name, value) ∈ constructorAssignments source cls) : cls.Within value := by
  obtain ⟨member, listed, -, statement, inside, field, assigns⟩ :=
    exists_statement_of_hint assigned
  obtain ⟨-, assignment, below, -, rightSide⟩ := Node.exists_of_thisAssignment? assigns
  exact (((within_of_member listed).1.itemsOf inside).below below).child? rightSide

theorem within_of_claims {node : Node} (claims : Claims source cls node) : cls.Within node := by
  cases claims with
  | member listed => exact (within_of_member listed).1
  | decorator listed attached =>
    obtain ⟨within, siblings⟩ := within_of_member listed
    rcases Site.cases_of_memberDecorator attached with before | own
    · exact siblings _ before
    · exact within.below own
  | entry listed holds inside =>
    have object := within_of_heldObject (within_of_member listed).1 holds
    exact object.below (Node.mem_children_of_mem_items inside)
  | hint assigned => exact within_of_hint assigned

end Element

namespace Property

open SyntaxTree Element

def LocatedIn (source : Source) (cls : Node) (range : Option SourceRange) : Prop :=
  ∃ node, Claims source cls node ∧ range = some (.ofNode source node)

theorem locatedIn_of_mem_surplusWarnings {settings : Settings} {source : Source} {cls : Node}
    {path : Option String} {diagnostic : Diagnostic}
    (listed : diagnostic ∈ surplusWarnings settings source cls path) :
    LocatedIn source cls diagnostic.range := by
  obtain ⟨⟨name, node⟩, surplus, rfl⟩ := List.mem_map.mp listed
  have candidate := List.mem_of_mem_tail surplus
  obtain ⟨member, named, reads⟩ := List.mem_filterMap.mp candidate
  obtain ⟨-, rfl⟩ := staticCandidate?_eq_some_iff.mp reads
  exact ⟨_, .member ((List.takeWhile_sublist _).subset named), rfl⟩

theorem locatedIn_of_rejected {settings : Settings} {resolver : Typing.Resolver} {source : Source}
    {cls : Node} {path : Option String} (only : OnlyCrashes resolver) {error : ClassError}
    (rejected : (properties settings resolver source path cls).outcome = .error (.rejected error)) :
    LocatedIn source cls (error.range source) := by
  have fault := (outcome_properties_eq_error_iff settings resolver source cls path _).mp rejected
  obtain ⟨problem, node, same, claims⟩ := claims_of_fault only fault
  cases same
  exact ⟨node, claims, rfl⟩

end Property

namespace Analysis

open SyntaxTree Typing Property Element

/-- Whatever is reported, and the error that it ends in, is at a place of the given kind. -/
structure SaysAt {α : Type} (place : Option SourceRange → Prop) (report : Report AnalysisError α) :
    Prop where
  diagnostics : ∀ diagnostic ∈ report.diagnostics, place diagnostic.range
  error : ∀ error, report.outcome = .error error → place error.range?

namespace SaysAt

variable {α β : Type} {place wider : Option SourceRange → Prop} {report : Report AnalysisError α}

theorem of_ok {value : α} (ends : report.outcome = .ok value)
    (spoken : ∀ diagnostic ∈ report.diagnostics, place diagnostic.range) :
    SaysAt place report where
  diagnostics := spoken
  error error failed := by
    rw [ends] at failed
    cases failed

theorem ok (value : α) : SaysAt place (.ok value) :=
  .of_ok rfl (List.forall_mem_nil _)

theorem mono (weaker : ∀ range, place range → wider range) (spoken : SaysAt place report) :
    SaysAt wider report where
  diagnostics diagnostic listed := weaker _ (spoken.diagnostics diagnostic listed)
  error error ends := weaker _ (spoken.error error ends)

theorem andThen {next : α → Report AnalysisError β} (spoken : SaysAt place report)
    (later : ∀ value, SaysAt place (next value)) : SaysAt place (report.andThen next) := by
  cases ends : report.outcome with
  | error failure =>
    rw [Report.andThen_of_error ends]
    refine ⟨spoken.diagnostics, ?_⟩
    rintro _ ⟨⟩
    exact spoken.error failure ends
  | ok value =>
    rw [Report.andThen_of_ok ends]
    refine ⟨fun diagnostic listed => ?_, (later value).error⟩
    rcases List.mem_append.mp listed with first | second
    · exact spoken.diagnostics diagnostic first
    · exact (later value).diagnostics diagnostic second

end SaysAt

section Located

variable {resolver : Resolver} (only : OnlyCrashes resolver) (strict : Bool) (settings : Settings)
  (source : Source) (path : Option String) (definitions : OrderedMap String String)

include only

theorem analyzeClass_saysAt (cls : Site) :
    SaysAt (LocatedIn source cls.node)
      (analyzeClass ⟨resolver, strict⟩ settings source path definitions cls) := by
  have warnings : ∀ diagnostic ∈
      (properties settings resolver source path cls.node).diagnostics,
      LocatedIn source cls.node diagnostic.range := by
    rw [diagnostics_properties]
    exact fun diagnostic listed => locatedIn_of_mem_surplusWarnings listed
  unfold analyzeClass
  cases ends : (properties settings resolver source path cls.node).outcome with
  | ok map =>
    simp only [ends]
    exact .of_ok rfl warnings
  | error failure =>
    cases failure with
    | aborted message =>
      exact absurd ends
        (outcome_properties_ne_aborted settings source only.neverAborts path cls.node message)
    | rejected error =>
      have located := locatedIn_of_rejected only ends
      cases strict with
      | true =>
        simp only [ends, if_true]
        refine ⟨warnings, ?_⟩
        rintro _ ⟨⟩
        exact located
      | false =>
        simp only [ends, Bool.false_eq_true, if_false]
        refine .of_ok rfl fun diagnostic listed => ?_
        rcases List.mem_append.mp listed with warning | last
        · exact warnings diagnostic warning
        · rw [List.mem_singleton.mp last]
          exact located

/-- A run over classes says nothing but what it says about one of them. -/
theorem analyzeClasses_saysAt (classes : List Site) :
    SaysAt (fun range => ∃ cls ∈ classes, LocatedIn source cls.node range)
      (analyzeClasses ⟨resolver, strict⟩ settings source path definitions classes) := by
  induction classes with
  | nil => exact .ok []
  | cons cls rest ih =>
    have first := (analyzeClass_saysAt only strict settings source path definitions cls).mono
      fun range located => (⟨cls, List.mem_cons_self, located⟩ :
        ∃ cls' ∈ cls :: rest, LocatedIn source cls'.node range)
    refine first.andThen fun element => ?_
    refine (ih.mono fun range => ?_).andThen fun elements => .ok _
    rintro ⟨other, listed, located⟩
    exact ⟨other, List.mem_cons_of_mem cls listed, located⟩

end Located

def PointsInto (source : Source) (cls : Node) (range : Option SourceRange) : Prop :=
  ∃ found, range = some found ∧ found.LiesIn (.ofNode source cls)

section ElementClasses

variable {settings : Settings} {source : Source} {root : Node}

theorem mem_classesAt_of_elementClasses {classes : List Site}
    (found : elementClasses settings source root = .ok classes) :
    ∀ cls ∈ classes, cls ∈ classesAt (.root root) := by
  by_cases judgeable : Judgeable settings root
  · rw [elementClasses_of_judgeable settings source root judgeable] at found
    obtain rfl := Except.ok.inj found
    rw [elementSites_eq_filter_classesAt]
    exact fun cls listed => (List.mem_filter.mp listed).1
  · obtain ⟨message, -, failed⟩ := elementClasses_of_not_judgeable settings source root judgeable
    cases found.symm.trans failed

theorem badSetting_of_elementClasses {error : AnalysisError}
    (failed : elementClasses settings source root = .error error) :
    ∃ message, error = .badSetting message := by
  by_cases judgeable : Judgeable settings root
  · rw [elementClasses_of_judgeable settings source root judgeable] at failed
    cases failed
  · obtain ⟨message, -, ends⟩ := elementClasses_of_not_judgeable settings source root judgeable
    exact ⟨message, Except.error.inj (failed.symm.trans ends)⟩

end ElementClasses

section Nested

variable {parsed : Parsed} (nested : Nested parsed.source parsed.tree.root)

include nested

theorem pointsInto_of_locatedIn {cls : Site} (listed : cls ∈ classesAt (.root parsed.tree.root))
    (range : Option SourceRange) (located : LocatedIn parsed.source cls.node range) :
    PointsInto parsed.source cls.node range := by
  obtain ⟨node, claims, rfl⟩ := located
  exact ⟨_, rfl, nested.liesIn (mem_preorder_of_mem_classesAt listed) (within_of_claims claims)⟩

variable {resolver : Resolver} (only : OnlyCrashes resolver) (strict : Bool) (settings : Settings)
  (path : Option String)

include only

theorem points_of_result :
    (∀ module, (analyzeParsed ⟨resolver, strict⟩ settings path parsed).result = .ok module →
      ∀ diagnostic ∈ module.diagnostics, ∃ cls ∈ classesAt (.root parsed.tree.root),
        PointsInto parsed.source cls.node diagnostic.range) ∧
    ∀ error, (analyzeParsed ⟨resolver, strict⟩ settings path parsed).result = .error error →
      (∃ message, error = .badSetting message) ∨ ∃ cls ∈ classesAt (.root parsed.tree.root),
        PointsInto parsed.source cls.node error.range? := by
  unfold analyzeParsed
  cases found : elementClasses settings parsed.source parsed.tree.root with
  | error failure =>
    refine ⟨fun _ ends => (by cases ends), fun error ends => .inl ?_⟩
    obtain rfl := Except.error.inj ends
    exact badSetting_of_elementClasses found
  | ok classes =>
    have spoken := (analyzeClasses_saysAt only strict settings parsed.source path
      (definitions parsed.source parsed.tree.root) classes).mono fun range located => by
        obtain ⟨cls, listed, located⟩ := located
        have isClass := mem_classesAt_of_elementClasses found cls listed
        exact (⟨cls, isClass, pointsInto_of_locatedIn nested isClass range located⟩ :
          ∃ cls ∈ classesAt (.root parsed.tree.root), PointsInto parsed.source cls.node range)
    cases ends : (analyzeClasses ⟨resolver, strict⟩ settings parsed.source path
        (definitions parsed.source parsed.tree.root) classes).outcome with
    | error failure =>
      simp only [ends]
      refine ⟨fun _ same => (by cases same), fun error same => .inr ?_⟩
      obtain rfl := Except.error.inj same
      exact spoken.error failure ends
    | ok elements =>
      simp only [ends]
      refine ⟨fun module same => ?_, fun _ same => by cases same⟩
      obtain rfl := Except.ok.inj same
      exact spoken.diagnostics

/-- Positions grow with their offsets and tell them apart, and whatever the analysis of a class says
is located in the range of that class. -/
theorem diagnostics_point_into_their_class :
    StrictMonoOn parsed.source.place (Set.Iic parsed.source.bytes.size) ∧
    (∀ offset ≤ parsed.source.bytes.size, ∃ start,
      (∀ other, parsed.source.StartsLine (parsed.source.position offset).line other ↔
        other = start) ∧ offset = start + (parsed.source.position offset).column) ∧
    (∀ node, (SourceRange.ofNode parsed.source node).start? =
        some (parsed.source.place node.span.start) ∧
      (SourceRange.ofNode parsed.source node).stop? =
        some (parsed.source.place node.span.stop)) ∧
    (∀ definitions, ∀ cls ∈ classesAt (.root parsed.tree.root),
      SaysAt (PointsInto parsed.source cls.node)
        (analyzeClass ⟨resolver, strict⟩ settings parsed.source path definitions cls)) ∧
    (∀ module, (analyzeParsed ⟨resolver, strict⟩ settings path parsed).result = .ok module →
      ∀ diagnostic ∈ module.diagnostics, ∃ cls ∈ classesAt (.root parsed.tree.root),
        PointsInto parsed.source cls.node diagnostic.range) ∧
    ∀ error, (analyzeParsed ⟨resolver, strict⟩ settings path parsed).result = .error error →
      (∃ message, error = .badSetting message) ∨ ∃ cls ∈ classesAt (.root parsed.tree.root),
        PointsInto parsed.source cls.node error.range? := by
  refine ⟨parsed.source.strictMonoOn_place, fun offset => Source.exists_startsLine,
    fun node => ⟨rfl, rfl⟩, fun definitions cls listed => ?_,
    points_of_result nested only strict settings path⟩
  exact (analyzeClass_saysAt only strict settings parsed.source path definitions cls).mono
    (pointsInto_of_locatedIn nested listed)

end Nested

/-- A class on three lines behind a character of two bytes. It has a second static properties member
and a field whose name is no plain name. -/
def brokenLines : Parsed where
  source := .ofString ("/*é*/class A extends LitElement\x7bstatic properties=\x7b\x7d\n"
    ++ "static properties=1\n\"b\"=2\x7d")
  tree := ⟨(Node.ofRows? [
    namedRow (.other "program") 2 0 80 none,
    namedRow .comment 0 0 6 none,
    namedRow .classDeclaration 3 6 80 none,
    namedRow .typeIdentifier 0 12 13 (some .name),
    namedRow .classHeritage 1 14 32 none,
    namedRow .extendsClause 1 14 32 none,
    namedRow .identifier 0 22 32 (some .value),
    namedRow (.other "class_body") 3 32 80 (some .body),
    namedRow .publicFieldDefinition 3 33 53 none,
    ⟨.staticWord, false, none, ⟨33, 39⟩, 0⟩,
    namedRow .propertyIdentifier 0 40 50 (some .name),
    namedRow .object 0 51 53 (some .value),
    namedRow .publicFieldDefinition 3 54 73 none,
    ⟨.staticWord, false, none, ⟨54, 60⟩, 0⟩,
    namedRow .propertyIdentifier 0 61 71 (some .name),
    namedRow .number 0 72 73 (some .value),
    namedRow .publicFieldDefinition 2 74 79 none,
    namedRow .stringLiteral 0 74 77 (some .name),
    namedRow .number 0 78 79 (some .value)]).getD default, false⟩

/-- The warning and the error are in the range of their class. -/
theorem diagnostics_point_into_their_class_brokenLines :
    Nested brokenLines.source brokenLines.tree.root ∧ OnlyCrashes syntactic ∧
      StrictMonoOn brokenLines.source.place (Set.Iic 80) ∧
      (classesAt (.root brokenLines.tree.root)).map (fun cls =>
        (SourceRange.ofNode brokenLines.source cls.node).text) = ["1:6-3:6"] ∧
      ∃ module, (analyzeParsed ⟨syntactic, false⟩ Configuration.default.settings none
          brokenLines).result = .ok module ∧
        module.diagnostics.map (·.range.map SourceRange.text) =
          [some "2:0-2:19", some "3:0-3:5"] ∧
        ∀ diagnostic ∈ module.diagnostics, ∃ cls ∈ classesAt (.root brokenLines.tree.root),
          PointsInto brokenLines.source cls.node diagnostic.range := by
  have nested : Nested brokenLines.source brokenLines.tree.root := by decide +kernel
  have ranges : ((analyzeParsed ⟨syntactic, false⟩ Configuration.default.settings none
      brokenLines).result.toOption.map fun module =>
        module.diagnostics.map (·.range.map SourceRange.text)) =
      some [some "2:0-2:19", some "3:0-3:5"] := by decide +kernel
  obtain ⟨module, kept, located⟩ := Option.map_eq_some_iff.mp ranges
  have returned := toOption_eq_some_iff.mp kept
  obtain ⟨grows, -, -, -, points, -⟩ := diagnostics_point_into_their_class nested
    onlyCrashes_syntactic false Configuration.default.settings none
  have size : brokenLines.source.bytes.size = 80 := by decide +kernel
  exact ⟨nested, onlyCrashes_syntactic, size ▸ grows, by decide +kernel, module, returned, located,
    points module returned⟩

end Analysis

end ReactiveProps
