import ReactiveProps.Proofs.Concatenation

/-!
# More base classes

A class that extends one of some base classes also extends one of more of them, and what it gives
does not depend on the others. So a lenient run with more base classes gives all that it gave with
fewer, in the same order, and what is new comes from classes that were no elements before.
-/
namespace ReactiveProps

def Configuration.withBaseClasses (configuration : Configuration) (names : List String) :
    Configuration :=
  configuration.set "analysis" "lit_base_classes" (.list (names.map .text))

def Settings.withBaseClasses (settings : Settings) (names : List String) : Settings :=
  { settings with baseClasses := .ok names }

theorem members?_texts (names : List String) : (Value.list (names.map .text)).members? = .ok names := by
  have texts : (names.map Value.text).filterMap Value.text? = names := by
    rw [List.filterMap_map]
    exact List.filterMap_some
  rw [Value.members?, texts, if_neg]
  rw [Bool.not_eq_true, List.any_map, List.any_eq_false]
  intro name _
  exact Bool.false_ne_true

theorem settings_withBaseClasses (configuration : Configuration) (names : List String) :
    (configuration.withBaseClasses names).settings =
      configuration.settings.withBaseClasses names := by
  have kept (key : String) (other : key ≠ "lit_base_classes") :
      (configuration.withBaseClasses names).analysis key = configuration.analysis key := by
    simp [Configuration.withBaseClasses, Configuration.set, Configuration.analysis,
      Configuration.lookup, OrderedMap.get?_insert, other]
  have written : (configuration.withBaseClasses names).analysis "lit_base_classes" =
      .list (names.map .text) := by
    simp [Configuration.withBaseClasses, Configuration.set, Configuration.analysis,
      Configuration.lookup, OrderedMap.get?_insert]
  rw [Configuration.settings, Configuration.settings, Settings.withBaseClasses,
    kept _ (by decide), kept _ (by decide), kept _ (by decide), written, members?_texts]

section Aligned

variable {α β : Type} {gap : α → Prop}

/-- What a choice of sources gives is what all of them give, apart from what those give that were
not chosen. -/
theorem aligned_flatMap_filter (chosen : β → Bool) (gives : β → List α) (sources : List β) :
    Aligned Eq (fun x => ∃ s ∈ sources, chosen s = false ∧ x ∈ gives s) (sources.flatMap gives)
      ((sources.filter chosen).flatMap gives) := by
  induction sources with
  | nil => exact .nil
  | cons s rest ih =>
    have tail : Aligned Eq (fun x => ∃ t ∈ s :: rest, chosen t = false ∧ x ∈ gives t)
        (rest.flatMap gives) ((rest.filter chosen).flatMap gives) := by
      refine ih.mono (fun _ _ => id) ?_
      rintro x ⟨t, listed, other⟩
      exact ⟨t, List.mem_cons_of_mem _ listed, other⟩
    rw [List.flatMap_cons, List.filter_cons]
    cases choice : chosen s with
    | true =>
      rw [if_pos rfl, List.flatMap_cons]
      exact (Aligned.of_forall₂ (List.forall₂_same.mpr fun _ _ => rfl)).append tail
    | false =>
      rw [if_neg Bool.false_ne_true]
      have given : ∀ x ∈ gives s, ∃ t ∈ s :: rest, chosen t = false ∧ x ∈ gives t :=
        fun x listed => ⟨s, List.mem_cons_self, choice, listed⟩
      exact (Aligned.of_gaps given).append tail

end Aligned

namespace Element

open SyntaxTree

theorem mentions_mono {source : Source} {names more : List String} (included : names ⊆ more)
    {node : Node} (mentioned : mentions source names node = true) :
    mentions source more node = true := by
  obtain ⟨found, below, named⟩ := List.any_eq_true.mp mentioned
  obtain ⟨isName, listed⟩ := Bool.and_eq_true_iff.mp named
  refine List.any_eq_true.mpr ⟨found, below, ?_⟩
  exact Bool.and_eq_true_iff.mpr ⟨isName, decide_eq_true (included (of_decide_eq_true listed))⟩

theorem isElement_mono {source : Source} {names more : List String} (included : names ⊆ more)
    {cls : Node} (element : isElement source names cls = true) :
    isElement source more cls = true := by
  unfold isElement at element ⊢
  cases inherits : heritage? cls with
  | none =>
    rw [inherits] at element
    cases element
  | some heritage =>
    rw [inherits] at element
    exact mentions_mono included element

end Element

namespace Analysis

open SyntaxTree Typing Property

section OneClass

variable (settings : Settings) (resolver : Resolver) (source : Source) (path : Option String)
  (names : List String)

theorem outcome_properties_withBaseClasses (cls : Node) :
    (properties (settings.withBaseClasses names) resolver source path cls).outcome =
      (properties settings resolver source path cls).outcome := by
  rw [outcome_properties, outcome_properties]
  rfl

theorem element?_withBaseClasses (definitions : OrderedMap String String) :
    element? (settings.withBaseClasses names) resolver source path definitions =
      element? settings resolver source path definitions := by
  funext cls
  rw [element?, element?, outcome_properties_withBaseClasses]
  rfl

theorem findings_withBaseClasses :
    findings (settings.withBaseClasses names) resolver source path =
      findings settings resolver source path := by
  funext cls
  rw [findings, findings, rejection?, rejection?, outcome_properties_withBaseClasses]
  rfl

end OneClass

section Sites

variable (settings : Settings) (source : Source) (root : Node) (names : List String)

theorem elementSites_withBaseClasses :
    elementSites (settings.withBaseClasses names) source root =
      (Element.classesAt (.root root)).filter fun cls =>
        Element.isElement source names cls.node :=
  elementSites_eq_filter_classesAt (settings.withBaseClasses names) source root

/-- With fewer base classes some of the elements are left. -/
theorem elementSites_of_subset {names more : List String} (included : names ⊆ more) :
    elementSites (settings.withBaseClasses names) source root =
      (elementSites (settings.withBaseClasses more) source root).filter fun cls =>
        Element.isElement source names cls.node := by
  rw [elementSites_withBaseClasses, elementSites_withBaseClasses, List.filter_filter]
  refine List.filter_congr fun cls _ => ?_
  cases element : Element.isElement source names cls.node with
  | false => rw [Bool.false_and]
  | true => rw [Element.isElement_mono included element, Bool.and_true]

end Sites

/-- What a lenient run with more base classes gives beyond a run with fewer. What is new is a
declaration of, or a diagnostic about, a class of the tree that extends none of the fewer. -/
structure Extends (settings : Settings) (resolver : Resolver) (parsed : Parsed)
    (names : List String) (module larger : Module) : Prop where
  path : larger.path = module.path
  elements : module.elements.Sublist larger.elements
  diagnostics : module.diagnostics.Sublist larger.diagnostics
  newElements : Aligned Eq
    (fun element => ∃ cls ∈ Element.classesAt (.root parsed.tree.root),
      Element.isElement parsed.source names cls.node = false ∧
        element? settings resolver parsed.source larger.path
          (Element.definitions parsed.source parsed.tree.root) cls = some element)
    larger.elements module.elements
  newDiagnostics : Aligned Eq
    (fun diagnostic => ∃ cls ∈ Element.classesAt (.root parsed.tree.root),
      Element.isElement parsed.source names cls.node = false ∧
        diagnostic ∈ findings settings resolver parsed.source larger.path cls)
    larger.diagnostics module.diagnostics

theorem extends_lenientModule (settings : Settings) (resolver : Resolver) (parsed : Parsed)
    (path : Option String) {names more : List String} (included : names ⊆ more) :
    Extends settings resolver parsed names
      (lenientModule (settings.withBaseClasses names) resolver parsed.source path
        parsed.tree.root)
      (lenientModule (settings.withBaseClasses more) resolver parsed.source path
        parsed.tree.root) := by
  have sites := elementSites_of_subset settings parsed.source parsed.tree.root included
  have listed : ∀ cls ∈ elementSites (settings.withBaseClasses more) parsed.source
      parsed.tree.root, cls ∈ Element.classesAt (.root parsed.tree.root) := by
    rw [elementSites_withBaseClasses]
    exact fun cls inside => List.mem_of_mem_filter inside
  have elements := aligned_flatMap_filter
    (fun cls => Element.isElement parsed.source names cls.node)
    (fun cls => (element? settings resolver parsed.source path
      (Element.definitions parsed.source parsed.tree.root) cls).toList)
    (elementSites (settings.withBaseClasses more) parsed.source parsed.tree.root)
  have diagnostics := aligned_flatMap_filter
    (fun cls => Element.isElement parsed.source names cls.node)
    (findings settings resolver parsed.source path)
    (elementSites (settings.withBaseClasses more) parsed.source parsed.tree.root)
  rw [← sites] at elements diagnostics
  simp only [lenientModule, gathered, element?_withBaseClasses, findings_withBaseClasses,
    List.filterMap_eq_flatMap_toList]
  refine ⟨rfl, elements.sublist, diagnostics.sublist, elements.mono (fun _ _ => id) ?_,
    diagnostics.mono (fun _ _ => id) ?_⟩
  · rintro element ⟨cls, inside, other, given⟩
    exact ⟨cls, listed cls inside, other, Option.mem_toList.mp given⟩
  · rintro diagnostic ⟨cls, inside, other, given⟩
    exact ⟨cls, listed cls inside, other, given⟩

/-- More base classes only add to what a lenient run gives. -/
theorem more_base_classes_add_results {resolver : Resolver} (never : NeverAborts resolver)
    (configuration : Configuration) (path : Option String) (parsed : Parsed)
    {names more : List String} (included : names ⊆ more) :
    let result := fun names => (analyzeParsed ⟨resolver, false⟩
      (configuration.withBaseClasses names).settings path parsed).result
    ∃ module larger, result names = .ok module ∧ result more = .ok larger ∧
      Extends configuration.settings resolver parsed names module larger := by
  intro result
  have returned : ∀ names, result names = .ok (lenientModule
      (configuration.settings.withBaseClasses names) resolver parsed.source path
      parsed.tree.root) := by
    intro names
    simp only [result, settings_withBaseClasses]
    exact result_of_judgeable never (.inl ⟨names, rfl⟩)
  exact ⟨_, _, returned names, returned more,
    extends_lenientModule configuration.settings resolver parsed path included⟩

/-- The module `class A extends Y{} class B extends X{}`, without the tokens that no reading looks
at. -/
def twoBases : Parsed where
  source := .ofString "class A extends Y\x7b\x7dclass B extends X\x7b\x7d"
  tree := ⟨(Node.ofRows? [
    namedRow (.other "program") 2 0 38 none,
    namedRow .classDeclaration 3 0 19 none,
    namedRow .typeIdentifier 0 6 7 (some .name),
    namedRow .classHeritage 1 8 17 none,
    namedRow .extendsClause 1 8 17 none,
    namedRow .identifier 0 16 17 (some .value),
    namedRow (.other "class_body") 0 17 19 (some .body),
    namedRow .classDeclaration 3 19 38 none,
    namedRow .typeIdentifier 0 25 26 (some .name),
    namedRow .classHeritage 1 27 36 none,
    namedRow .extendsClause 1 27 36 none,
    namedRow .identifier 0 35 36 (some .value),
    namedRow (.other "class_body") 0 36 38 (some .body)]).getD default, false⟩

/-- The class that is new stands before the one that was an element already. -/
theorem more_base_classes_add_results_twoBases :
    NeverAborts syntactic ∧ ["X"] ⊆ ["X", "Y"] ∧
      let result := fun names => (analyzeParsed ⟨syntactic, false⟩
        (Configuration.default.withBaseClasses names).settings none twoBases).result
      ∃ module larger, result ["X"] = .ok module ∧ result ["X", "Y"] = .ok larger ∧
        Extends Configuration.default.settings syntactic twoBases ["X"] module larger ∧
        module.elements.map (·.name) = ["B"] ∧ larger.elements.map (·.name) = ["A", "B"] := by
  have included : ["X"] ⊆ ["X", "Y"] := by decide
  refine ⟨neverAborts_syntactic, included, ?_⟩
  intro result
  obtain ⟨module, larger, returned, returned', extending⟩ := more_base_classes_add_results
    neverAborts_syntactic Configuration.default none twoBases included
  have named : (result ["X"]).toOption.map (fun module => module.elements.map (·.name)) =
      some ["B"] := by decide +kernel
  have named' : (result ["X", "Y"]).toOption.map (fun module => module.elements.map (·.name)) =
      some ["A", "B"] := by decide +kernel
  rw [toOption_eq_some_iff.mpr returned, Option.map_some, Option.some.injEq] at named
  rw [toOption_eq_some_iff.mpr returned', Option.map_some, Option.some.injEq] at named'
  exact ⟨module, larger, returned, returned', extending, named, named'⟩

end Analysis

end ReactiveProps
