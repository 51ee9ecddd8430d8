import ReactiveProps.Analysis.Analyze
import ReactiveProps.Proofs.Findings
import ReactiveProps.Proofs.PairedProperties

/-!
# Analysis of modules that read the same

If the trees of two modules are paired, node by node at the same places of one source, and the
resolver answers alike for paired nodes, then the analysis ends in the same way for both, whatever
its strictness: with modules that are equal up to node numbers, or with the same error about paired
nodes.
-/
namespace ReactiveProps

namespace SyntaxTree.Pairing

variable {left right : Source} (P : Pairing left right)

/-- Paired nodes behind paired siblings, below paired parents. -/
abbrev Site (a b : SyntaxTree.Site) : Prop :=
  P.SameSite P.pairs (Option.Rel P.pairs) a b

theorem aligned_walk {a b : SyntaxTree.Site} (same : P.Site a b) :
    Aligned P.Site (fun site => P.gap site.node) a.walk b.walk := by
  refine Site.aligned_walkAll ?_ ?_ (.cons same .nil)
  · intro s t paired
    exact aligned_children (.some paired.node) (P.children paired.node)
  · intro s gap
    exact Site.children_eq_nil (P.leaf_of_gap gap)

theorem site_root {a b : Node} (paired : P.pairs a b) : P.Site (.root a) (.root b) :=
  ⟨paired, .none, .nil⟩

end SyntaxTree.Pairing

namespace Element

open SyntaxTree Property

variable {left right : Source} (P : Pairing left right)

theorem className?_eq {a b : Site} (same : P.Site a b) : className? left a = className? right b := by
  have name := P.rel_child? same.node .name
  have declarator := rel_optionFilter same.parent (p := (·.kind == .variableDeclarator))
    (q := (·.kind == .variableDeclarator)) fun _ _ paired => by rw [P.kind_eq paired]
  have declared := bind_eq_of_rel declarator
    (f := fun node => ((node.child? .name).filter (·.kind == .identifier)).map left.text)
    (g := fun node => ((node.child? .name).filter (·.kind == .identifier)).map right.text)
    fun x y paired => by
      have plain := rel_optionFilter (P.rel_child? paired .name) (p := (·.kind == .identifier))
        (q := (·.kind == .identifier)) fun _ _ inner => by rw [P.kind_eq inner]
      exact map_eq_of_rel plain fun _ _ => P.text_eq
  unfold className?
  rw [declared]
  generalize a.node.child? .name = x, b.node.child? .name = y at name ⊢
  cases name with
  | none => rfl
  | some paired => exact congrArg some (P.text_eq paired)

theorem forall₂_classDecorators {a b : Site} (same : P.Site a b) :
    List.Forall₂ P.pairs a.classDecorators b.classDecorators := by
  have own := P.forall₂_decorators same.node
  have parent := same.parent
  unfold Site.classDecorators
  generalize a.parent = x, b.parent = y at parent ⊢
  cases parent with
  | none => exact own
  | some paired =>
    simp only [P.kind_eq paired]
    split
    · exact List.rel_append (P.forall₂_decorators paired) own
    · exact own

theorem decoratedTag?_eq (settings : Settings) {a b : Site} (same : P.Site a b) :
    decoratedTag? settings left a = decoratedTag? settings right b := by
  have decorators := forall₂_classDecorators P same
  unfold decoratedTag?
  generalize a.classDecorators = xs, b.classDecorators = ys at decorators ⊢
  induction decorators with
  | nil => rw [List.findSome?_nil, List.findSome?_nil]
  | cons head _ ih =>
    rw [List.findSome?_cons, List.findSome?_cons, decoratorTag?_eq P settings head, ih]

theorem tag?_eq (settings : Settings) (definitions : OrderedMap String String) {a b : Site}
    (same : P.Site a b) :
    tag? settings left definitions a = tag? settings right definitions b := by
  rw [tag?, tag?, decoratedTag?_eq P settings same, className?_eq P same]

theorem forall₂_classesAt {a b : Node} (paired : P.pairs a b) :
    List.Forall₂ P.Site (classesAt (.root a)) (classesAt (.root b)) := by
  have visited := P.aligned_walk (P.site_root paired)
  have chosen := visited.forall₂_filter
    (p := fun found => found.node.named && found.node.kind.isClass)
    (q := fun found => found.node.named && found.node.kind.isClass)
    (fun s t same => by rw [P.named_eq same.node, P.kind_eq same.node])
    (fun s gap => by rw [P.comment_of_gap gap, Bool.and_comm]; rfl)
  exact chosen.imp fun _ _ h => h.1

theorem rel_heritage? {a b : Node} (paired : P.pairs a b) :
    Option.Rel P.pairs (heritage? a) (heritage? b) :=
  P.rel_find?_namedChildren paired (by decide)

theorem baseClause_paired {a b : Node} (paired : P.pairs a b) :
    P.pairs (baseClause a) (baseClause b) := by
  have clause : Option.Rel P.pairs (a.namedChildren.find? (·.kind == .extendsClause))
      (b.namedChildren.find? (·.kind == .extendsClause)) :=
    P.rel_find?_namedChildren paired (by decide)
  unfold baseClause
  generalize a.namedChildren.find? (·.kind == .extendsClause) = x,
    b.namedChildren.find? (·.kind == .extendsClause) = y at clause ⊢
  cases clause with
  | none => exact paired
  | some inner => exact inner

theorem mentions_eq (names : List String) {a b : Node} (paired : P.pairs a b) :
    mentions left names a = mentions right names b := by
  have visited := P.aligned_walk (P.site_root paired)
  unfold mentions Node.walk
  rw [List.any_map, List.any_map]
  refine visited.any_eq (fun s t same => ?_) fun s gap => ?_
  · simp only [Function.comp_apply, P.kind_eq same.node, P.text_eq same.node]
  · rw [Function.comp_apply, P.comment_of_gap gap]
    rfl

theorem isElement_eq (names : List String) {a b : Node} (paired : P.pairs a b) :
    isElement left names a = isElement right names b :=
  any_eq_of_rel (rel_heritage? P paired) fun _ _ heritage =>
    mentions_eq P names (baseClause_paired P heritage)

/-- Of the arguments of a call only the texts of literals and names count. -/
theorem definition?_eq_of_arguments {a b : Node} (kind : a.kind = b.kind)
    (called : (a.child? .function).any (fun callee => left.text callee ∈ definers) =
      (b.child? .function).any fun callee => right.text callee ∈ definers)
    (arguments : List.Forall₂ (fun x y => x.kind = y.kind ∧
      (x.kind = .stringLiteral ∨ x.kind = .identifier → left.text x = right.text y))
      a.callArguments b.callArguments) :
    definition? left a = definition? right b := by
  unfold definition?
  rw [kind, called]
  generalize a.callArguments = xs, b.callArguments = ys at arguments ⊢
  cases arguments with
  | nil => rfl
  | cons tag rest =>
    cases rest with
    | nil => rfl
    | cons cls _ =>
      simp only [← tag.1, ← cls.1]
      split
      · split
        · next chosen =>
          rw [cls.2 (.inr chosen.2), Source.unquoted, Source.unquoted, tag.2 (.inl chosen.1)]
        · rfl
      · rfl

theorem definition?_eq {a b : Node} (paired : P.pairs a b) :
    definition? left a = definition? right b := by
  have callee := any_eq_of_rel (P.rel_child? paired .function)
    (p := fun callee => left.text callee ∈ definers)
    (q := fun callee => right.text callee ∈ definers)
    fun _ _ same => by rw [P.text_eq same]
  refine definition?_eq_of_arguments (P.kind_eq paired) callee ?_
  exact (P.forall₂_itemsOf paired .arguments).imp
    fun _ _ same => ⟨P.kind_eq same, fun _ => P.text_eq same⟩

theorem definitions_eq {a b : Node} (paired : P.pairs a b) :
    definitions left a = definitions right b := by
  have visited := P.aligned_walk (P.site_root paired)
  have same : registrations left a = registrations right b := by
    unfold registrations Node.walk
    rw [List.filterMap_map, List.filterMap_map]
    refine visited.filterMap_eq (fun s t same => definition?_eq P same.node) fun s gap => ?_
    rw [Function.comp_apply, definition?, P.comment_of_gap gap]
    rfl
  rw [definitions, definitions, same]

end Element

namespace Analysis

open SyntaxTree Typing Property

inductive ErrorAlike (M : Node → Node → Prop) : AnalysisError → AnalysisError → Prop
  | rejected {first second : ClassError} {range range' : Option SourceRange}
      (same : SameClassError M first second)
      (ranges : range.map (·.unnumbered) = range'.map (·.unnumbered)) (className : Option String) :
      ErrorAlike M (.rejected first range className) (.rejected second range' className)
  | placeless {error : AnalysisError} (about : error.kind.hasNode = false) :
      ErrorAlike M error error

/-- Ends of an analysis that tell the same: modules that are equal up to node numbers, or errors
that say the same. -/
abbrev SameResult (M : Node → Node → Prop) (first second : Except AnalysisError Module) : Prop :=
  EndAlike (ErrorAlike M) (fun module other => module.unnumbered = other.unnumbered) first second

structure ReportAlike {α β : Type} (M : Node → Node → Prop) (S : α → β → Prop)
    (first : Report AnalysisError α) (second : Report AnalysisError β) : Prop where
  outcome : EndAlike (ErrorAlike M) S first.outcome second.outcome
  diagnostics : first.diagnostics.map (·.unnumbered) = second.diagnostics.map (·.unnumbered)

theorem ReportAlike.andThen {α β γ δ : Type} {M : Node → Node → Prop} {R : α → β → Prop}
    {S : γ → δ → Prop} {first : Report AnalysisError α} {second : Report AnalysisError β}
    {f : α → Report AnalysisError γ} {g : β → Report AnalysisError δ}
    (same : ReportAlike M R first second) (next : ∀ a b, R a b → ReportAlike M S (f a) (g b)) :
    ReportAlike M S (first.andThen f) (second.andThen g) where
  outcome := by
    rw [Report.outcome_andThen, Report.outcome_andThen]
    exact same.outcome.bind fun a b h => (next a b h).outcome
  diagnostics := by
    have ends := same.outcome
    rw [Report.diagnostics_andThen, Report.diagnostics_andThen, List.map_append, List.map_append,
      same.diagnostics]
    generalize first.outcome = x, second.outcome = y at ends ⊢
    cases ends with
    | error => rfl
    | ok value => simp only [(next _ _ value).diagnostics]

section Paired

variable {source : Source} {P : Pairing source source}
  (placed : ∀ {a b}, P.pairs a b → a.span = b.span) (settings : Settings)

section Ranges

include placed

theorem unnumbered_ofNode {a b : Node} (paired : P.pairs a b) :
    (SourceRange.ofNode source a).unnumbered = (SourceRange.ofNode source b).unnumbered := by
  rw [SourceRange.ofNode, SourceRange.ofNode, placed paired]
  rfl

theorem unnumbered_range {first second : ClassError} (same : SameClassError P.pairs first second) :
    (first.range source).map (·.unnumbered) = (second.range source).map (·.unnumbered) := by
  rw [ClassError.range, ClassError.range, Option.map_map, Option.map_map]
  exact map_eq_of_rel same.place fun _ _ paired => unnumbered_ofNode placed paired

end Ranges

theorem classesAlike_of_pairs {a b : Node} (paired : P.pairs a b) :
    ClassesAlike P P.pairs (fun _ _ => True) settings a b := by
  have members : List.Forall₂ (P.SameSite P.pairs fun _ _ => True) a.classMembers
      b.classMembers := by
    refine Pairing.forall₂_classMembers P.covers_pairs (fun _ _ => trivial) ?_
    exact rel_mono (P.rel_child? paired .body) fun x y body => P.children body
  exact ⟨members, matched_selectedStatic? settings P.covers_pairs members,
    matched_constructor? P.covers_pairs members⟩

section Warnings

include placed

theorem unnumbered_surplusWarnings (path : Option String) {a b : Node} (paired : P.pairs a b) :
    (surplusWarnings settings source a path).map (·.unnumbered) =
      (surplusWarnings settings source b path).map (·.unnumbered) := by
  have surplus := forall₂_surplusStatic settings P.covers_pairs
    (classesAlike_of_pairs settings paired)
  rw [surplusWarnings, surplusWarnings, List.map_map, List.map_map]
  refine map_eq_of_forall₂ surplus fun x y same => ?_
  simp only [Function.comp_apply, surplusWarning, Diagnostic.unnumbered, Option.map_some, same.1,
    unnumbered_ofNode placed same.2]

theorem unnumbered_diagnostic {first second : ClassError} (same : SameClassError P.pairs first second)
    (className path : Option String) :
    (first.diagnostic source className path).unnumbered =
      (second.diagnostic source className path).unnumbered := by
  simp only [ClassError.diagnostic, Diagnostic.unnumbered, ClassError.message, same.problem,
    unnumbered_range placed same]

end Warnings

variable {resolver : Resolver} (strict : Bool) (path : Option String)
  (definitions : OrderedMap String String)
  (answers : ∀ {a b}, P.pairs a b → SameAnswer P.pairs (resolver source a) (resolver source b))

def SameElement (x y : ElementDeclaration) : Prop := x.unnumbered = y.unnumbered

include placed

theorem sameElement_declaration {a b : Site} (same : P.Site a b) {map map' : PropertyMap}
    (maps : PropertyMap.unnumbered map = PropertyMap.unnumbered map') :
    SameElement (declaration settings source definitions a map)
      (declaration settings source definitions b map') := by
  have ranges := unnumbered_ofNode placed same.node
  simp only [SameElement, declaration, ElementDeclaration.unnumbered, Element.className?_eq P same,
    Element.tag?_eq P settings definitions same, maps, Option.map_some, ranges]

include answers

theorem analyzeClass_alike {a b : Site} (same : P.Site a b) :
    ReportAlike P.pairs (Option.Rel SameElement)
      (analyzeClass ⟨resolver, strict⟩ settings source path definitions a)
      (analyzeClass ⟨resolver, strict⟩ settings source path definitions b) := by
  have ends := outcome_properties_alike settings resolver P.covers_pairs
    (classesAlike_of_pairs settings same.node) answers path path
  have warnings := unnumbered_surplusWarnings placed settings path same.node
  rw [← diagnostics_properties settings resolver, ← diagnostics_properties settings resolver]
    at warnings
  unfold analyzeClass
  simp only [Element.className?_eq P same]
  generalize properties settings resolver source path a.node = first,
    properties settings resolver source path b.node = second at ends warnings ⊢
  obtain ⟨events, diagnostics, outcome⟩ := first
  obtain ⟨events', diagnostics', outcome'⟩ := second
  cases ends with
  | ok maps =>
    exact ⟨.ok (.some (sameElement_declaration placed settings definitions same maps)), warnings⟩
  | error fault =>
    cases fault with
    | aborted message => exact ⟨.error (.placeless rfl), warnings⟩
    | @rejected error error' rejected =>
      -- a strict run raises the error, a lenient one turns it into a diagnostic
      cases strict with
      | true => exact ⟨.error (.rejected rejected (unnumbered_range placed rejected) _), warnings⟩
      | false =>
        refine ⟨.ok .none, ?_⟩
        simp only [Bool.false_eq_true, if_false, List.map_append, warnings, List.map_cons,
          unnumbered_diagnostic placed rejected]

theorem analyzeClasses_alike {classes classes' : List Site}
    (matched : List.Forall₂ P.Site classes classes') :
    ReportAlike P.pairs (List.Forall₂ SameElement)
      (analyzeClasses ⟨resolver, strict⟩ settings source path definitions classes)
      (analyzeClasses ⟨resolver, strict⟩ settings source path definitions classes') := by
  induction matched with
  | nil => exact ⟨.ok .nil, rfl⟩
  | cons head _ ih =>
    rw [analyzeClasses, analyzeClasses]
    have first := analyzeClass_alike placed settings strict path definitions answers head
    refine first.andThen fun element element' same => ?_
    refine ih.andThen fun elements elements' others => ⟨.ok ?_, rfl⟩
    cases same with
    | none => exact others
    | some one => exact .cons one others

omit placed answers in
theorem elementClasses_alike {a b : Node} (paired : P.pairs a b) :
    EndAlike (ErrorAlike P.pairs) (List.Forall₂ P.Site) (elementClasses settings source a)
      (elementClasses settings source b) := by
  have classes := Element.forall₂_classesAt P paired
  have aligned : Aligned P.Site (fun _ => False) (Element.classesAt (.root a))
    (Element.classesAt (.root b)) := .of_forall₂ classes
  unfold elementClasses
  cases settings.baseClasses with
  | ok names =>
    have chosen := aligned.forall₂_filter
      (p := fun cls => Element.isElement source names cls.node)
      (q := fun cls => Element.isElement source names cls.node)
      (fun _ _ same => Element.isElement_eq P names same.node) nofun
    exact .ok (chosen.imp fun _ _ h => h.1)
  | error message =>
    have inherits := aligned.any_eq (p := fun cls => (Element.heritage? cls.node).isSome)
      (q := fun cls => (Element.heritage? cls.node).isSome)
      (fun _ _ same => isSome_eq_of_rel (Element.rel_heritage? P same.node)) nofun
    simp only [inherits]
    split
    · exact .error (.placeless rfl)
    · exact .ok .nil

/-- Modules whose trees are paired have the same result. -/
theorem analyzeParsed_alike {first second : Parse} (paired : P.pairs first.root second.root) :
    SameResult P.pairs (analyzeParsed ⟨resolver, strict⟩ settings path ⟨source, first⟩).result
      (analyzeParsed ⟨resolver, strict⟩ settings path ⟨source, second⟩).result := by
  have classes := elementClasses_alike settings paired
  unfold analyzeParsed
  simp only [Element.definitions_eq P paired]
  generalize elementClasses settings source first.root = x,
    elementClasses settings source second.root = y at classes ⊢
  cases classes with
  | error fault => exact .error fault
  | ok matched =>
    have reports := analyzeClasses_alike placed settings strict path
      (Element.definitions source second.root) answers matched
    have ends := reports.outcome
    have diagnostics := reports.diagnostics
    simp only
    generalize analyzeClasses ⟨resolver, strict⟩ settings source path
      (Element.definitions source second.root) _ = r at ends diagnostics ⊢
    generalize analyzeClasses ⟨resolver, strict⟩ settings source path
      (Element.definitions source second.root) _ = r' at ends diagnostics ⊢
    obtain ⟨events, found, outcome⟩ := r
    obtain ⟨events', found', outcome'⟩ := r'
    cases ends with
    | error fault => exact .error fault
    | ok elements =>
      refine .ok ?_
      simp only [Module.unnumbered, map_eq_of_forall₂ elements fun _ _ same => same, diagnostics]

end Paired

end Analysis

end ReactiveProps
