import ReactiveProps.Analysis.Analyze
import ReactiveProps.Proofs.Findings

/-!
# What a run gives for each class

With a resolver that never aborts, a class is either declared or rejected. A lenient run gathers
what its classes give one by one, and so does a strict run that meets no class to reject.
-/
namespace ReactiveProps.Analysis

open SyntaxTree Typing Property

variable (settings : Settings) (resolver : Resolver) (source : Source) (path : Option String)
  (definitions : OrderedMap String String)

def rejection? (cls : Site) : Option ClassError :=
  match (properties settings resolver source path cls.node).outcome with
  | .error (.rejected error) => some error
  | _ => none

def element? (cls : Site) : Option ElementDeclaration :=
  (properties settings resolver source path cls.node).outcome.toOption.map
    (declaration settings source definitions cls)

/-- The error of a strict run that ends at a rejected class. -/
def raised (cls : Site) (error : ClassError) : AnalysisError :=
  .rejected error (error.range source) (some (shownName (Element.className? source cls)))

def skipped (cls : Site) (error : ClassError) : Diagnostic :=
  error.diagnostic source (some (shownName (Element.className? source cls))) path

def findings (cls : Site) : List Diagnostic :=
  surplusWarnings settings source cls.node path ++
    ((rejection? settings resolver source path cls).map (skipped source path cls)).toList

def firstRejection? (classes : List Site) : Option (Site × ClassError) :=
  classes.findSome? fun cls =>
    (rejection? settings resolver source path cls).map fun error => (cls, error)

def gathered (classes : List Site) : Module :=
  ⟨path, classes.filterMap (element? settings resolver source path definitions),
    classes.flatMap (findings settings resolver source path)⟩

section Gathering

variable (analyzer : Analyzer)

/-- The analysis of a class does not end the run and gives what the class has to give. -/
def Continues (cls : Site) : Prop :=
  let report := analyzeClass analyzer settings source path definitions cls
  report.outcome = .ok (element? settings analyzer.resolver source path definitions cls) ∧
    report.diagnostics = findings settings analyzer.resolver source path cls

theorem analyzeClasses_gathers {classes : List Site}
    (each : ∀ cls ∈ classes, Continues settings source path definitions analyzer cls) :
    let report := analyzeClasses analyzer settings source path definitions classes
    let module := gathered settings analyzer.resolver source path definitions classes
    report.outcome = .ok module.elements ∧ report.diagnostics = module.diagnostics := by
  induction classes with
  | nil => exact ⟨rfl, rfl⟩
  | cons cls rest ih =>
    obtain ⟨first, firstFindings⟩ := each cls List.mem_cons_self
    obtain ⟨others, otherFindings⟩ := ih fun other listed => each other (.tail _ listed)
    simp only [analyzeClasses, gathered] at others otherFindings ⊢
    rw [Report.andThen_of_ok first, Report.andThen_of_ok others, firstFindings, otherFindings]
    constructor
    · cases declared : element? settings analyzer.resolver source path definitions cls <;>
        simp [declared]
    · simp [Report.after, Report.ok]

end Gathering

variable {settings resolver source path}

theorem rejection?_eq_some_iff {cls : Site} {error : ClassError} :
    rejection? settings resolver source path cls = some error ↔
      (properties settings resolver source path cls.node).outcome = .error (.rejected error) := by
  unfold rejection?
  cases (properties settings resolver source path cls.node).outcome with
  | ok map => simp
  | error error => cases error <;> simp

section NeverAborting

variable (never : NeverAborts resolver)

include never

theorem rejection?_eq_none_iff {cls : Site} :
    rejection? settings resolver source path cls = none ↔
      ∃ map, (properties settings resolver source path cls.node).outcome = .ok map := by
  unfold rejection?
  cases ends : (properties settings resolver source path cls.node).outcome with
  | ok map => simp
  | error error =>
    cases error with
    | rejected error => simp
    | aborted message =>
      exact absurd ends (outcome_properties_ne_aborted settings source never path cls.node message)

theorem continues_of_accepted (strict : Bool) {cls : Site}
    (accepted : rejection? settings resolver source path cls = none) :
    Continues settings source path definitions ⟨resolver, strict⟩ cls := by
  obtain ⟨map, ends⟩ := (rejection?_eq_none_iff never).mp accepted
  simp [Continues, analyzeClass, ends, element?, findings, accepted, Except.toOption,
    diagnostics_properties]

theorem continues_lenient (cls : Site) :
    Continues settings source path definitions ⟨resolver, false⟩ cls := by
  cases verdict : rejection? settings resolver source path cls with
  | none => exact continues_of_accepted definitions never false verdict
  | some error =>
    have ends := rejection?_eq_some_iff.mp verdict
    simp [Continues, analyzeClass, ends, element?, findings, verdict, Except.toOption,
      diagnostics_properties, skipped]

theorem analyzeClasses_strict_raises {classes : List Site} {cls : Site} {error : ClassError}
    (first : firstRejection? settings resolver source path classes = some (cls, error)) :
    (analyzeClasses ⟨resolver, true⟩ settings source path definitions classes).outcome =
      .error (raised source cls error) := by
  unfold firstRejection? at first
  induction classes with
  | nil => cases first
  | cons head rest ih =>
    rw [List.findSome?_cons] at first
    rw [analyzeClasses]
    cases verdict : rejection? settings resolver source path head with
    | none =>
      -- An accepted class adds to the module and leaves the first rejection to the rest.
      simp only [verdict, Option.map_none] at first
      have goesOn := (continues_of_accepted definitions never true verdict).1
      rw [Report.andThen_of_ok goesOn, Report.outcome_after, Report.outcome_andThen, ih first]
      rfl
    | some rejected =>
      simp only [verdict, Option.map_some, Option.some.injEq, Prod.mk.injEq] at first
      obtain ⟨rfl, rfl⟩ := first
      have ends := rejection?_eq_some_iff.mp verdict
      have stops : (analyzeClass ⟨resolver, true⟩ settings source path definitions head).outcome =
          .error (raised source head rejected) := by
        simp [analyzeClass, ends, raised]
      rw [Report.andThen_of_error stops]

end NeverAborting

theorem rejection?_of_firstRejection?_eq_none {classes : List Site}
    (accepted : firstRejection? settings resolver source path classes = none) :
    ∀ cls ∈ classes, rejection? settings resolver source path cls = none := by
  intro cls listed
  exact Option.map_eq_none_iff.mp (List.findSome?_eq_none_iff.mp accepted cls listed)

theorem result_of_continues (analyzer : Analyzer) {parsed : Parsed} {classes : List Site}
    (found : elementClasses settings parsed.source parsed.tree.root = .ok classes)
    (each : ∀ cls ∈ classes, Continues settings parsed.source path
      (Element.definitions parsed.source parsed.tree.root) analyzer cls) :
    (analyzeParsed analyzer settings path parsed).result =
      .ok (gathered settings analyzer.resolver parsed.source path
        (Element.definitions parsed.source parsed.tree.root) classes) := by
  obtain ⟨elements, diagnostics⟩ := analyzeClasses_gathers settings parsed.source path
    (Element.definitions parsed.source parsed.tree.root) analyzer each
  simp only [analyzeParsed, found, elements, diagnostics]
  rfl

theorem result_lenient (never : NeverAborts resolver) {parsed : Parsed} {classes : List Site}
    (found : elementClasses settings parsed.source parsed.tree.root = .ok classes) :
    (analyzeParsed ⟨resolver, false⟩ settings path parsed).result =
      .ok (gathered settings resolver parsed.source path
        (Element.definitions parsed.source parsed.tree.root) classes) :=
  result_of_continues ⟨resolver, false⟩ found fun cls _ => continues_lenient _ never cls

theorem result_strict (never : NeverAborts resolver) {parsed : Parsed} {classes : List Site}
    (found : elementClasses settings parsed.source parsed.tree.root = .ok classes) :
    (analyzeParsed ⟨resolver, true⟩ settings path parsed).result =
      match firstRejection? settings resolver parsed.source path classes with
      | some (cls, error) => .error (raised parsed.source cls error)
      | none => .ok (gathered settings resolver parsed.source path
          (Element.definitions parsed.source parsed.tree.root) classes) := by
  cases first : firstRejection? settings resolver parsed.source path classes with
  | some rejected =>
    simp only [analyzeParsed, found, analyzeClasses_strict_raises _ never first]
  | none =>
    exact result_of_continues ⟨resolver, true⟩ found fun cls listed =>
      continues_of_accepted _ never true (rejection?_of_firstRejection?_eq_none first cls listed)

/-- Without usable base classes a run ends in the same way whatever its analyzer. -/
theorem result_of_elementClasses_error (analyzer : Analyzer) {parsed : Parsed}
    {error : AnalysisError}
    (failed : elementClasses settings parsed.source parsed.tree.root = .error error) :
    (analyzeParsed analyzer settings path parsed).result = .error error := by
  simp only [analyzeParsed, failed]

theorem errors_findings (cls : Site) :
    (findings settings resolver source path cls).filter (fun found => found.severity == .error) =
      ((rejection? settings resolver source path cls).map (skipped source path cls)).toList := by
  have warnings : (surplusWarnings settings source cls.node path).filter
      (fun found => found.severity == .error) = [] := by
    rw [List.filter_eq_nil_iff]
    intro warning listed
    rw [(of_mem_surplusWarnings settings source listed).1]
    decide
  rw [findings, List.filter_append, warnings, List.nil_append]
  cases rejection? settings resolver source path cls with
  | none => rfl
  | some error => rfl

theorem find?_error_findings (cls : Site) :
    (findings settings resolver source path cls).find? (fun found => found.severity == .error) =
      (rejection? settings resolver source path cls).map (skipped source path cls) := by
  rw [← List.head?_filter, errors_findings]
  cases rejection? settings resolver source path cls <;> rfl

theorem find?_error_gathered (classes : List Site) :
    (gathered settings resolver source path definitions classes).diagnostics.find?
        (fun found => found.severity == .error) =
      (firstRejection? settings resolver source path classes).map fun rejected =>
        skipped source path rejected.1 rejected.2 := by
  rw [gathered, List.find?_flatMap, firstRejection?, List.map_findSome?]
  congr 1
  funext cls
  rw [find?_error_findings, Function.comp_apply, Option.map_map]
  rfl

end ReactiveProps.Analysis
