import ReactiveProps.Analysis.Directory
import ReactiveProps.Proofs.Accounting

/-!
# Analyses of several files

Files are analyzed one after the other up to the first that fails. Whether all of them are clean does
not depend on the strictness: a strict run fails at a class where a lenient run makes an error
diagnostic.
-/
namespace ReactiveProps.Analysis

open Files Typing Property

/-- An error of the analysis itself. The others come from settings or folders that cannot be used. -/
def AnalysisError.isOwn : AnalysisError → Bool
  | badSetting _ => false
  | unreachable _ _ => false
  | _ => true

def Clean (result : Except AnalysisError Module) : Prop :=
  ∃ module, result = .ok module ∧ module.hasErrors = false

def AllClean (result : Except AnalysisError (List Module)) : Prop :=
  ∃ modules, result = .ok modules ∧ ∀ module ∈ modules, module.hasErrors = false

variable {bench : Workbench} {fs : FileSystem}

theorem analyzeFiles_of_ok {path : String} {rest : List String} {module : Module}
    (returned : (analyzeFile bench fs path).result = .ok module) :
    (analyzeFiles bench fs (path :: rest)).result =
      (analyzeFiles bench fs rest).result.map (module :: ·) := by
  simp only [analyzeFiles, returned]

theorem analyzeFiles_of_error {path : String} {rest : List String} {error : AnalysisError}
    (failed : (analyzeFile bench fs path).result = .error error) :
    (analyzeFiles bench fs (path :: rest)).result = .error error := by
  simp only [analyzeFiles, failed]

theorem analyzeFiles_singleton (path : String) :
    (analyzeFiles bench fs [path]).result = (analyzeFile bench fs path).result.map ([·]) := by
  cases ends : (analyzeFile bench fs path).result with
  | error error => rw [analyzeFiles_of_error ends]; rfl
  | ok module => rw [analyzeFiles_of_ok ends]; rfl

theorem allClean_analyzeFiles_iff (paths : List String) :
    AllClean (analyzeFiles bench fs paths).result ↔
      ∀ path ∈ paths, Clean (analyzeFile bench fs path).result := by
  induction paths with
  | nil => simp [AllClean, analyzeFiles]
  | cons path rest ih =>
    rw [List.forall_mem_cons, ← ih]
    cases ends : (analyzeFile bench fs path).result with
    | error error =>
      rw [analyzeFiles_of_error ends]
      simp [AllClean, Clean]
    | ok module =>
      rw [analyzeFiles_of_ok ends]
      cases (analyzeFiles bench fs rest).result with
      | error error => simp [AllClean, Except.map]
      | ok modules => simp [AllClean, Clean, Except.map]

/-- The modules returned are those of the files, in order. -/
theorem forall₂_of_analyzeFiles {paths : List String} {modules : List Module}
    (returned : (analyzeFiles bench fs paths).result = .ok modules) :
    List.Forall₂ (fun path module => (analyzeFile bench fs path).result = .ok module)
      paths modules := by
  induction paths generalizing modules with
  | nil =>
    cases returned
    exact .nil
  | cons path rest ih =>
    cases ends : (analyzeFile bench fs path).result with
    | error error =>
      rw [analyzeFiles_of_error ends] at returned
      cases returned
    | ok module =>
      rw [analyzeFiles_of_ok ends] at returned
      obtain ⟨others, done, rfl⟩ := exists_of_map_eq_ok returned
      exact .cons ends (ih done)

theorem exists_of_analyzeFiles_error {paths : List String} {error : AnalysisError}
    (failed : (analyzeFiles bench fs paths).result = .error error) :
    ∃ path ∈ paths, (analyzeFile bench fs path).result = .error error := by
  induction paths with
  | nil => cases failed
  | cons path rest ih =>
    cases ends : (analyzeFile bench fs path).result with
    | error other =>
      rw [analyzeFiles_of_error ends] at failed
      cases failed
      exact ⟨path, List.mem_cons_self, ends⟩
    | ok module =>
      rw [analyzeFiles_of_ok ends] at failed
      cases others : (analyzeFiles bench fs rest).result with
      | ok modules =>
        rw [others] at failed
        cases failed
      | error other =>
        rw [others] at failed
        cases failed
        obtain ⟨file, listed, same⟩ := ih others
        exact ⟨file, List.mem_cons_of_mem path listed, same⟩

theorem path_of_analyzeParsed {analyzer : Analyzer} {settings : Settings} {path : Option String}
    {parsed : Parsed} {module : Module}
    (returned : (analyzeParsed analyzer settings path parsed).result = .ok module) :
    module.path = path := by
  unfold analyzeParsed at returned
  split at returned
  · cases returned
  · simp only at returned
    split at returned
    · cases returned
    · cases returned
      rfl

/-- A module has the path of its file. -/
theorem path_of_analyzeFile {path : String} {module : Module}
    (returned : (analyzeFile bench fs path).result = .ok module) : module.path = some path := by
  unfold analyzeFile at returned
  split at returned
  · split at returned
    · unfold analyze at returned
      split at returned
      · exact path_of_analyzeParsed returned
      · cases returned
    · cases returned
  · cases returned

section OneFile

variable {parser : Parser} {resolver : Resolver} {configuration : Configuration} {path : String}
  (never : NeverAborts resolver)

theorem isOwn_of_unparsed {job : Job} {error : AnalysisError}
    (failed : job.parsed parser = .error error) : error.isOwn = true := by
  unfold Job.parsed Job.grammar parse at failed
  split at failed
  · split at failed
    · cases failed
    · cases failed
      rfl
  · rename_i unsupported
    cases failed
    split at unsupported
    · cases unsupported
    · split at unsupported
      · cases unsupported
      · cases unsupported
        rfl

include never

theorem clean_analyze_iff (settings : Settings) (job : Job) :
    Clean (analyze parser ⟨resolver, true⟩ settings job).result ↔
      Clean (analyze parser ⟨resolver, false⟩ settings job).result := by
  unfold analyze
  cases job.parsed parser with
  | error error => exact Iff.rfl
  | ok parsed =>
    have agree := analyzeParsed_agree never settings job.path parsed
    constructor
    · rintro ⟨module, returned, clean⟩
      exact ⟨module, ((agree.modules module).mp returned).1, clean⟩
    · rintro ⟨module, returned, clean⟩
      exact ⟨module, (agree.modules module).mpr ⟨returned, clean⟩, clean⟩

theorem clean_analyzeFile_iff :
    Clean (analyzeFile ⟨parser, ⟨resolver, true⟩, configuration⟩ fs path).result ↔
      Clean (analyzeFile ⟨parser, ⟨resolver, false⟩, configuration⟩ fs path).result := by
  unfold analyzeFile
  cases fs.isFile path with
  | false => exact Iff.rfl
  | true =>
    cases fs.load path with
    | error error => exact Iff.rfl
    | ok text => exact clean_analyze_iff never _ _

/-- The files of a strict run are clean if and only if those of a lenient run are. -/
theorem allClean_strict_iff (paths : List String) (strict : Bool) :
    AllClean (analyzeFiles ⟨parser, ⟨resolver, strict⟩, configuration⟩ fs paths).result ↔
      AllClean (analyzeFiles ⟨parser, ⟨resolver, false⟩, configuration⟩ fs paths).result := by
  cases strict with
  | false => exact Iff.rfl
  | true =>
    rw [allClean_analyzeFiles_iff, allClean_analyzeFiles_iff]
    exact forall₂_congr fun path _ => clean_analyzeFile_iff never

/-- With usable base classes a module fails for reasons of its own only. -/
theorem isOwn_of_analyze {settings : Settings} {names : List String}
    (usable : settings.baseClasses = .ok names) {strict : Bool} {job : Job} {error : AnalysisError}
    (failed : (analyze parser ⟨resolver, strict⟩ settings job).result = .error error) :
    error.isOwn = true := by
  unfold analyze at failed
  cases parses : job.parsed parser with
  | error other =>
    rw [parses] at failed
    cases failed
    exact isOwn_of_unparsed parses
  | ok parsed =>
    rw [parses] at failed
    have found := elementClasses_of_judgeable settings parsed.source parsed.tree.root
      (.inl ⟨names, usable⟩)
    cases strict with
    | false =>
      rw [result_lenient never found] at failed
      cases failed
    | true =>
      rw [result_strict never found] at failed
      split at failed
      · cases failed
        rfl
      · cases failed

theorem isOwn_of_analyzeFile {names : List String}
    (usable : configuration.settings.baseClasses = .ok names) {strict : Bool}
    {error : AnalysisError}
    (failed : (analyzeFile ⟨parser, ⟨resolver, strict⟩, configuration⟩ fs path).result =
      .error error) : error.isOwn = true := by
  unfold analyzeFile at failed
  split at failed
  · split at failed
    · exact isOwn_of_analyze never usable failed
    · cases failed
      rfl
  · cases failed
    rfl

end OneFile

end ReactiveProps.Analysis
