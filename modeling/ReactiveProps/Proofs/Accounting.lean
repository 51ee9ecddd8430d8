import ReactiveProps.Proofs.Strictness

/-!
# A lenient run accounts for every class

Every element class of a module becomes one declaration or one error, in preorder, and warnings come
with the class that they are about. Only base classes that cannot be used end a lenient run.
-/
namespace ReactiveProps.Analysis

open SyntaxTree Typing Property

section ElementClasses

variable (settings : Settings) (source : Source) (root : Node)

/-- Whether it can be told which classes are elements. A class without heritage is none, whatever
the base classes are. -/
def Judgeable : Prop :=
  (∃ names, settings.baseClasses = .ok names) ∨
    ∀ cls ∈ Element.classesAt (.root root), Element.heritage? cls.node = none

def isElementClass (node : Node) : Bool :=
  node.named && node.kind.isClass &&
    Element.isElement source (settings.baseClasses.toOption.getD []) node

def elementSites : List Site :=
  (Site.root root).walk.filter fun site => isElementClass settings source site.node

theorem map_node_elementSites :
    (elementSites settings source root).map Site.node =
      root.preorder.filter (isElementClass settings source) := by
  rw [← Node.walk_eq_preorder, Node.walk, List.filter_map]
  rfl

theorem elementSites_eq_filter_classesAt :
    elementSites settings source root = (Element.classesAt (.root root)).filter fun cls =>
      Element.isElement source (settings.baseClasses.toOption.getD []) cls.node := by
  rw [elementSites, Element.classesAt, List.filter_filter]
  congr 1
  funext site
  rw [isElementClass, Bool.and_comm]

theorem isElement_eq_false_of_heritage?_eq_none {names : List String} {cls : Node}
    (bare : Element.heritage? cls = none) : Element.isElement source names cls = false := by
  rw [Element.isElement, bare, Option.any_none]

theorem elementClasses_of_judgeable (judgeable : Judgeable settings root) :
    elementClasses settings source root = .ok (elementSites settings source root) := by
  rw [elementSites_eq_filter_classesAt, elementClasses]
  cases configured : settings.baseClasses with
  | ok names => rfl
  | error message =>
    have bare : ∀ cls ∈ Element.classesAt (.root root), Element.heritage? cls.node = none := by
      rcases judgeable with ⟨usable, given⟩ | bare
      · rw [configured] at given
        cases given
      · exact bare
    have untold : ((Element.classesAt (.root root)).any fun cls =>
        (Element.heritage? cls.node).isSome) = false := by
      rw [List.any_eq_false]
      intro cls listed
      rw [bare cls listed]
      decide
    have empty : (Element.classesAt (.root root)).filter (fun cls =>
        Element.isElement source ((Except.error message : Except String _).toOption.getD [])
          cls.node) = [] := by
      rw [List.filter_eq_nil_iff]
      intro cls listed
      rw [isElement_eq_false_of_heritage?_eq_none source (bare cls listed)]
      decide
    rw [empty]
    simp only [untold, Bool.false_eq_true, if_false]

theorem elementClasses_of_not_judgeable (untold : ¬ Judgeable settings root) :
    ∃ message, settings.baseClasses = .error message ∧
      elementClasses settings source root = .error (.badSetting message) := by
  obtain ⟨unusable, heritage⟩ := not_or.mp untold
  cases configured : settings.baseClasses with
  | ok names => exact absurd ⟨names, configured⟩ unusable
  | error message =>
    refine ⟨message, rfl, ?_⟩
    have inherits : ((Element.classesAt (.root root)).any fun cls =>
        (Element.heritage? cls.node).isSome) = true := by
      rw [List.any_eq_true]
      simp only [Classical.not_forall] at heritage
      obtain ⟨cls, listed, has⟩ := heritage
      exact ⟨cls, listed, Option.isSome_iff_ne_none.mpr has⟩
    simp only [elementClasses, configured, inherits, if_true]

/-- The element classes are those for which the answer is yes, if there is one for every class. -/
theorem elementClasses_eq_ok_iff {classes : List Site} :
    elementClasses settings source root = .ok classes ↔
      ∃ answer : Site → Bool, (∀ cls ∈ Element.classesAt (.root root),
        Element.isElementUnder settings source cls.node = .ok (answer cls)) ∧
          classes = (Element.classesAt (.root root)).filter answer := by
  unfold elementClasses Element.isElementUnder
  cases settings.baseClasses with
  | ok names =>
    constructor
    · rintro ⟨⟩
      exact ⟨_, fun _ _ => rfl, rfl⟩
    · rintro ⟨answer, each, rfl⟩
      exact congrArg Except.ok
        (List.filter_congr fun cls listed => Except.ok.inj (each cls listed))
  | error message =>
    cases inherits : (Element.classesAt (.root root)).any fun cls =>
        (Element.heritage? cls.node).isSome with
    | true =>
      simp only [inherits, if_true, reduceCtorEq, false_iff]
      rintro ⟨answer, each, -⟩
      obtain ⟨cls, listed, has⟩ := List.any_eq_true.mp inherits
      have told := each cls listed
      rw [if_pos has] at told
      cases told
    | false =>
      have bare : ∀ cls ∈ Element.classesAt (.root root), ¬ (Element.heritage? cls.node).isSome :=
        List.any_eq_false.mp inherits
      simp only [inherits, Bool.false_eq_true, if_false, Except.ok.injEq]
      constructor
      · rintro rfl
        refine ⟨fun _ => false, fun cls listed => if_neg (bare cls listed), ?_⟩
        rw [List.filter_false]
      · rintro ⟨answer, each, rfl⟩
        refine (List.filter_eq_nil_iff.mpr fun cls listed => ?_).symm
        have told := each cls listed
        rw [if_neg (bare cls listed), Except.ok.injEq] at told
        rw [← told]
        decide

end ElementClasses

section Accounts

variable (settings : Settings) (resolver : Resolver) (source : Source) (path : Option String)
  (definitions : OrderedMap String String)

def errorsOf (module : Module) : List Diagnostic :=
  module.diagnostics.filter fun found => found.severity == .error

/-- A module says of each of some classes what the class gives, and nothing else. -/
structure Accounts (classes : List Site) (module : Module) : Prop where
  place : module.path = path
  elements : module.elements =
    classes.filterMap (element? settings resolver source path definitions)
  diagnostics : module.diagnostics = classes.flatMap (findings settings resolver source path)
  located : ∀ diagnostic ∈ module.diagnostics, diagnostic.path = path
  complete : module.elements.length + (errorsOf module).length = classes.length
  failing : module.hasErrors = true ↔
    ∃ cls ∈ classes, ∃ error,
      (properties settings resolver source path cls.node).outcome = .error error

variable {settings resolver source path}

theorem path_of_mem_findings {cls : Site} {diagnostic : Diagnostic}
    (listed : diagnostic ∈ findings settings resolver source path cls) :
    diagnostic.path = path := by
  rcases List.mem_append.mp listed with warning | rejected
  · exact (of_mem_surplusWarnings settings source warning).2
  · obtain ⟨error, -, rfl⟩ := Option.map_eq_some_iff.mp (Option.mem_toList.mp rejected)
    rfl

variable (never : NeverAborts resolver)

include never

/-- A class is declared or it makes one error. -/
theorem element_or_error (cls : Site) :
    (element? settings resolver source path definitions cls).toList.length +
      ((rejection? settings resolver source path cls).map (skipped source path cls)).toList.length =
        1 := by
  cases verdict : rejection? settings resolver source path cls with
  | none =>
    obtain ⟨map, ends⟩ := (rejection?_eq_none_iff never).mp verdict
    simp [element?, ends, Except.toOption]
  | some error => simp [element?, rejection?_eq_some_iff.mp verdict, Except.toOption]

theorem length_elements_add_errors (classes : List Site) :
    (gathered settings resolver source path definitions classes).elements.length +
      (errorsOf (gathered settings resolver source path definitions classes)).length =
        classes.length := by
  simp only [gathered, errorsOf, List.filter_flatMap, errors_findings]
  induction classes with
  | nil => rfl
  | cons cls rest ih =>
    have one := @element_or_error settings resolver source path definitions never cls
    rw [List.flatMap_cons, List.length_append, List.length_cons]
    cases declared : element? settings resolver source path definitions cls with
    | none =>
      rw [declared, Option.toList_none, List.length_nil] at one
      rw [List.filterMap_cons_none declared]
      omega
    | some element =>
      rw [declared, Option.toList_some, List.length_singleton] at one
      rw [List.filterMap_cons_some declared, List.length_cons]
      omega

theorem hasErrors_gathered_iff (classes : List Site) :
    (gathered settings resolver source path definitions classes).hasErrors = true ↔
      ∃ cls ∈ classes, ∃ error,
        (properties settings resolver source path cls.node).outcome = .error error := by
  rw [← isSome_firstError?, firstError?, find?_error_gathered, Option.isSome_map, firstRejection?,
    List.findSome?_isSome_iff]
  constructor
  · rintro ⟨cls, listed, rejected⟩
    obtain ⟨error, verdict⟩ := Option.isSome_iff_exists.mp (Option.isSome_map ▸ rejected)
    exact ⟨cls, listed, .rejected error, rejection?_eq_some_iff.mp verdict⟩
  · rintro ⟨cls, listed, error, ends⟩
    cases error with
    | rejected error => exact ⟨cls, listed, by rw [rejection?_eq_some_iff.mpr ends]; rfl⟩
    | aborted message =>
      exact absurd ends (outcome_properties_ne_aborted settings source never path cls.node message)

theorem gathered_accounts (classes : List Site) :
    Accounts settings resolver source path definitions classes
      (gathered settings resolver source path definitions classes) where
  place := rfl
  elements := rfl
  diagnostics := rfl
  located := by
    intro diagnostic listed
    obtain ⟨cls, -, found⟩ := List.mem_flatMap.mp listed
    exact path_of_mem_findings found
  complete := length_elements_add_errors definitions never classes
  failing := hasErrors_gathered_iff definitions never classes

end Accounts

/-- If it can be told which classes are elements, a lenient run returns a module that accounts for
each of them in preorder; else it ends with what is wrong with the base classes. -/
theorem lenient_run_accounts_for_every_class (parser : Parser) (resolver : Resolver)
    (settings : Settings) (job : Job) (parsed : Parsed) (never : NeverAborts resolver)
    (parses : job.parsed parser = .ok parsed) :
    let root := parsed.tree.root
    let classes := elementSites settings parsed.source root
    let result := (analyze parser ⟨resolver, false⟩ settings job).result
    classes.map Site.node = root.preorder.filter (isElementClass settings parsed.source) ∧
      (Judgeable settings root → ∃ module, result = .ok module ∧
        Accounts settings resolver parsed.source job.path
          (Element.definitions parsed.source root) classes module) ∧
      (¬ Judgeable settings root → ∃ message, settings.baseClasses = .error message ∧
        result = .error (.badSetting message)) := by
  refine ⟨map_node_elementSites settings parsed.source parsed.tree.root, ?_, ?_⟩
  · intro judgeable
    have found := elementClasses_of_judgeable settings parsed.source _ judgeable
    refine ⟨_, ?_, gathered_accounts _ never _⟩
    simp only [analyze, parses, result_lenient never found]
  · intro untold
    obtain ⟨message, configured, failed⟩ :=
      elementClasses_of_not_judgeable settings parsed.source _ untold
    refine ⟨message, configured, ?_⟩
    simp only [analyze, parses, result_of_elementClasses_error _ failed]

theorem lenient_run_accounts_for_twoClasses :
    let settings := Configuration.default.settings
    NeverAborts syntactic ∧ ∃ parsed, twoClassesJob.parsed twoClassesParser = .ok parsed ∧
      Judgeable settings parsed.tree.root ∧
      ∃ module, (analyze twoClassesParser ⟨syntactic, false⟩ settings twoClassesJob).result =
          .ok module ∧
        (elementSites settings parsed.source parsed.tree.root).length = 2 ∧
        module.elements.length + (errorsOf module).length = 2 ∧
        ∀ diagnostic ∈ module.diagnostics, diagnostic.path = some "two.ts" := by
  intro settings
  have reads : (twoClassesJob.parsed twoClassesParser).toOption.map (fun parsed =>
      (elementSites settings parsed.source parsed.tree.root).length) = some 2 := by decide +kernel
  obtain ⟨parsed, kept, two⟩ := Option.map_eq_some_iff.mp reads
  have parses := toOption_eq_some_iff.mp kept
  have judgeable : Judgeable settings parsed.tree.root := .inl ⟨_, rfl⟩
  obtain ⟨-, gives, -⟩ := lenient_run_accounts_for_every_class twoClassesParser syntactic settings
    twoClassesJob parsed neverAborts_syntactic parses
  obtain ⟨module, returned, accounts⟩ := gives judgeable
  exact ⟨neverAborts_syntactic, parsed, parses, judgeable, module, returned, two,
    accounts.complete.trans two, accounts.located⟩

/-- With null as the base classes no module is returned, although all else is in order. -/
theorem null_base_classes_give_no_module :
    let settings := (Configuration.default.set "analysis" "lit_base_classes" .null).settings
    NeverAborts syntactic ∧ (∃ parsed, twoClassesJob.parsed twoClassesParser = .ok parsed) ∧
      ¬ ∃ module, (analyze twoClassesParser ⟨syntactic, false⟩ settings twoClassesJob).result =
        .ok module := by
  intro settings
  have reads : (twoClassesJob.parsed twoClassesParser).toOption.isSome = true := by decide +kernel
  have fails : (analyze twoClassesParser ⟨syntactic, false⟩ settings
      twoClassesJob).result.toOption.isNone = true := by decide +kernel
  obtain ⟨parsed, kept⟩ := Option.isSome_iff_exists.mp reads
  refine ⟨neverAborts_syntactic, ⟨parsed, toOption_eq_some_iff.mp kept⟩, ?_⟩
  rintro ⟨module, returned⟩
  rw [returned] at fails
  cases fails

end ReactiveProps.Analysis
