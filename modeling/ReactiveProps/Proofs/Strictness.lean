import ReactiveProps.Proofs.Merge
import ReactiveProps.Proofs.Runs

/-!
# Strict and lenient runs agree

A strict run ends where a lenient run makes its first error diagnostic, with the error that the
diagnostic stands for. If a lenient run makes none, both give the same module.
-/
namespace ReactiveProps.Analysis

open SyntaxTree Typing Property

/-- A diagnostic says about a class what the error of a strict run says. -/
structure StandsFor (diagnostic : Diagnostic) (error : AnalysisError) : Prop where
  about : error.kind.hasNode = true
  message : error.text = diagnostic.message
  range : error.range? = diagnostic.range
  named : ∃ name, diagnostic.className = some name ∧
    error.context.get? "class_name" = some (.text name)

theorem skipped_standsFor_raised (source : Source) (path : Option String) (cls : Site)
    (error : ClassError) :
    StandsFor (skipped source path cls error) (raised source cls error) where
  about := by
    obtain ⟨problem, node, details⟩ := error
    cases problem <;> rfl
  message := rfl
  range := rfl
  named := ⟨_, rfl, by simp [raised, AnalysisError.context, OrderedMap.get?_insert]⟩

def firstError? (module : Module) : Option Diagnostic :=
  module.diagnostics.find? fun found => found.severity == .error

theorem isSome_firstError? (module : Module) : (firstError? module).isSome = module.hasErrors :=
  List.isSome_find?

/-- How the end of a strict run and that of a lenient run belong together. -/
structure Agree (strict lenient : Except AnalysisError Module) : Prop where
  modules : ∀ module, strict = .ok module ↔ lenient = .ok module ∧ module.hasErrors = false
  rejections : ∀ module, lenient = .ok module → module.hasErrors = true →
    ∃ diagnostic error, firstError? module = some diagnostic ∧ strict = .error error ∧
      StandsFor diagnostic error
  failures : ∀ error, lenient = .error error → strict = .error error

theorem agree_of_failure (error : AnalysisError) : Agree (.error error) (.error error) where
  modules := by simp
  rejections := by simp
  failures := fun _ => id

theorem agree_of_accepted {module : Module} (accepted : firstError? module = none) :
    Agree (.ok module) (.ok module) := by
  have clean : module.hasErrors = false := by
    rw [← isSome_firstError?, accepted, Option.isSome_none]
  refine ⟨?_, ?_, fun _ => id⟩
  · intro other
    constructor
    · rintro ⟨⟩
      exact ⟨rfl, clean⟩
    · exact And.left
  · rintro other ⟨⟩ failed
    rw [clean] at failed
    cases failed

theorem agree_of_rejected {module : Module} {diagnostic : Diagnostic} {error : AnalysisError}
    (first : firstError? module = some diagnostic) (stands : StandsFor diagnostic error) :
    Agree (.error error) (.ok module) := by
  have failed : module.hasErrors = true := by
    rw [← isSome_firstError?, first, Option.isSome_some]
  refine ⟨?_, ?_, ?_⟩
  · intro other
    constructor
    · rintro ⟨⟩
    · rintro ⟨⟨⟩, clean⟩
      rw [failed] at clean
      cases clean
  · rintro other ⟨⟩ -
    exact ⟨diagnostic, error, first, rfl, stands⟩
  · rintro other ⟨⟩

theorem analyzeParsed_agree {resolver : Resolver} (never : NeverAborts resolver)
    (settings : Settings) (path : Option String) (parsed : Parsed) :
    Agree (analyzeParsed ⟨resolver, true⟩ settings path parsed).result
      (analyzeParsed ⟨resolver, false⟩ settings path parsed).result := by
  cases found : elementClasses settings parsed.source parsed.tree.root with
  | error error =>
    rw [result_of_elementClasses_error _ found, result_of_elementClasses_error _ found]
    exact agree_of_failure error
  | ok classes =>
    have firstError : firstError? (gathered settings resolver parsed.source path
          (Element.definitions parsed.source parsed.tree.root) classes) =
        (firstRejection? settings resolver parsed.source path classes).map fun rejected =>
          skipped parsed.source path rejected.1 rejected.2 := find?_error_gathered _ classes
    rw [result_strict never found, result_lenient never found]
    cases first : firstRejection? settings resolver parsed.source path classes with
    | none =>
      rw [first] at firstError
      exact agree_of_accepted firstError
    | some rejected =>
      rw [first] at firstError
      exact agree_of_rejected firstError (skipped_standsFor_raised _ path rejected.1 rejected.2)

theorem strict_agrees_with_lenient (parser : Parser) (resolver : Resolver) (settings : Settings)
    (job : Job) (never : NeverAborts resolver) :
    let strict := (analyze parser ⟨resolver, true⟩ settings job).result
    let lenient := (analyze parser ⟨resolver, false⟩ settings job).result
    Agree strict lenient ∧
      ∀ error, job.parsed parser = .error error →
        strict = .error error ∧ lenient = .error error := by
  cases parses : job.parsed parser with
  | error error =>
    simp only [analyze, parses]
    refine ⟨agree_of_failure error, ?_⟩
    rintro other ⟨⟩
    exact ⟨rfl, rfl⟩
  | ok parsed =>
    simp only [analyze, parses]
    refine ⟨analyzeParsed_agree never settings job.path parsed, ?_⟩
    rintro other ⟨⟩

def twoClassesText : String :=
  "class A extends LitElement\x7bstatic properties=\x7b\x7d;static properties=\x7b\x7d\x7d"
    ++ "class B extends LitElement\x7b@property() \"b\"=1\x7d"

def twoClasses : Node := (Node.ofRows? [
  namedRow (.other "program") 2 0 114 none,
  namedRow .classDeclaration 3 0 69 none,
  namedRow .typeIdentifier 0 6 7 (some .name),
  namedRow .classHeritage 1 8 26 none,
  namedRow .extendsClause 1 8 26 none,
  namedRow .identifier 0 16 26 (some .value),
  namedRow (.other "class_body") 2 26 69 (some .body),
  namedRow .publicFieldDefinition 3 27 47 none,
  ⟨.staticWord, false, none, ⟨27, 33⟩, 0⟩,
  namedRow .propertyIdentifier 0 34 44 (some .name),
  namedRow .object 0 45 47 (some .value),
  namedRow .publicFieldDefinition 3 48 68 none,
  ⟨.staticWord, false, none, ⟨48, 54⟩, 0⟩,
  namedRow .propertyIdentifier 0 55 65 (some .name),
  namedRow .object 0 66 68 (some .value),
  namedRow .classDeclaration 3 69 114 none,
  namedRow .typeIdentifier 0 75 76 (some .name),
  namedRow .classHeritage 1 77 95 none,
  namedRow .extendsClause 1 77 95 none,
  namedRow .identifier 0 85 95 (some .value),
  namedRow (.other "class_body") 1 95 114 (some .body),
  namedRow .publicFieldDefinition 3 96 113 none,
  namedRow .decorator 1 96 107 none,
  namedRow .callExpression 2 97 107 none,
  namedRow .identifier 0 97 105 (some .function),
  namedRow (.other "arguments") 0 105 107 (some .arguments),
  namedRow .stringLiteral 0 108 111 (some .name),
  namedRow .number 0 112 113 (some .value)]).getD default

/-- A job whose first class has a warning and whose second class is rejected. -/
def twoClassesJob : Job := ⟨.ofString twoClassesText, some "two.ts", none⟩

def twoClassesParser : Parser := fun _ _ => ⟨twoClasses, false⟩

theorem strict_agrees_with_lenient_twoClasses :
    NeverAborts syntactic ∧
      let settings := Configuration.default.settings
      ∃ module diagnostic error,
        (analyze twoClassesParser ⟨syntactic, false⟩ settings twoClassesJob).result = .ok module ∧
          module.diagnostics.map (·.severity) = [.warning, .error] ∧
          firstError? module = some diagnostic ∧
          (analyze twoClassesParser ⟨syntactic, true⟩ settings twoClassesJob).result =
            .error error ∧ StandsFor diagnostic error := by
  refine ⟨neverAborts_syntactic, ?_⟩
  intro settings
  obtain ⟨agree, -⟩ := strict_agrees_with_lenient twoClassesParser syntactic settings twoClassesJob
    neverAborts_syntactic
  have reported : ((analyze twoClassesParser ⟨syntactic, false⟩ settings
      twoClassesJob).result.toOption.map fun module => module.diagnostics.map (·.severity)) =
        some [.warning, .error] := by decide +kernel
  obtain ⟨module, kept, severities⟩ := Option.map_eq_some_iff.mp reported
  have lenient := toOption_eq_some_iff.mp kept
  have failed : module.hasErrors = true := by
    have some : (module.diagnostics.map (·.severity)).any (· == .error) = true := by
      rw [severities]
      rfl
    rwa [List.any_map] at some
  obtain ⟨diagnostic, error, first, strict, stands⟩ := agree.rejections module lenient failed
  exact ⟨module, diagnostic, error, lenient, severities, first, strict, stands⟩

end ReactiveProps.Analysis
