import Mathlib.Data.List.Forall2
import ReactiveProps.CommandLine.Run
import ReactiveProps.Proofs.FileRuns
import ReactiveProps.Proofs.SourceFiles

/-!
# The exit status of an analysis

A run of `analyze` ends with status 0 if the path is there and all of its files are clean, and with
status 1 otherwise. How strict it is, how much it says and where the document goes make no difference
to that. The document is given out whenever the analysis returns, whatever the status.
-/
namespace ReactiveProps.CommandLine

open Analysis Files Typing Property

/-- A configuration whose settings can all be used, as those of the default can. -/
structure Usable (configuration : Configuration) : Prop where
  level : ∃ rank, configuredRank (configuration.lookup "logging" "level" (.text "WARNING")) =
    .ok rank
  baseClasses : ∃ names, configuration.settings.baseClasses = .ok names
  extensions : ∃ extensions, (configuration.analysis "file_extensions").members? = .ok extensions

theorem usable_default : Usable .default where
  level := ⟨_, rfl⟩
  baseClasses := ⟨_, rfl⟩
  extensions := ⟨_, rfl⟩

def AnalyzeRequest.target? (request : AnalyzeRequest) : Option String :=
  request.output.filter (· != "")

/-- The files that a request is about, in the order in which they are analyzed. -/
def searched (workspace : Workspace) (request : AnalyzeRequest) : List String :=
  if workspace.files.isFolder request.path then
    match (workspace.configuration.analysis "file_extensions").members? with
    | .ok extensions =>
      (workspace.files.search extensions request.path request.recursive).sources
    | .error _ => []
  else [request.path]

/-- Whether the directory of a request can be read: no path that is looked at in it is too long. -/
def AnalyzeRequest.IsReadable (request : AnalyzeRequest) (files : FileSystem) : Prop :=
  files.isFolder request.path = true → files.Searchable request.path request.recursive

def benchOf (parser : Parser) (workspace : Workspace) (strict : Bool) : Workbench :=
  ⟨parser, ⟨syntactic, strict⟩, workspace.configuration⟩

section Analysis

variable {parser : Parser} {workspace : Workspace} {request : AnalyzeRequest}
  (usable : Usable workspace.configuration) (readable : request.IsReadable workspace.files)

include usable readable

theorem result_analyzePath :
    (analyzePath parser workspace request).result =
      (analyzeFiles (benchOf parser workspace request.strict) workspace.files
        (searched workspace request)).result := by
  unfold analyzePath searched
  cases isFolder : workspace.files.isFolder request.path with
  | false =>
    simp only [Bool.false_eq_true, if_false]
    rw [analyzeFiles_singleton]
    rfl
  | true =>
    obtain ⟨extensions, given⟩ := usable.extensions
    obtain ⟨folder, found⟩ := FileSystem.root?_of_isFolder isFolder
    have whole : (workspace.files.search extensions request.path request.recursive).tooLong? =
        none := by rw [FileSystem.search_eq found (readable isFolder)]
    simp only [if_true, analyzeDirectory, given, afterSearch, whole]
    rfl

theorem isOwn_of_analyzePath {error : AnalysisError}
    (failed : (analyzePath parser workspace request).result = .error error) :
    error.isOwn = true := by
  obtain ⟨names, usableNames⟩ := usable.baseClasses
  rw [result_analyzePath usable readable] at failed
  obtain ⟨path, -, ends⟩ := exists_of_analyzeFiles_error failed
  exact isOwn_of_analyzeFile neverAborts_syntactic usableNames ends

end Analysis

/-! ### One run -/

def AnalyzeRequest.HasPlace (request : AnalyzeRequest) (files : FileSystem) : Prop :=
  ∀ path, request.target? = some path → ∃ location, files.target path = .ok location

def returned? (parser : Parser) (workspace : Workspace) (request : AnalyzeRequest) :
    Option (List Module) :=
  if workspace.files.hasPath request.path then
    (analyzePath parser (configure workspace request) request).result.toOption
  else none

def listing (modules : List Module) : String :=
  (Json.object [("modules", .array (modules.map (·.document)))]).pretty

/-- A run gives out the listing of what was returned, in the one place that was asked for, and
nothing else. -/
structure Delivers (files : FileSystem) (request : AnalyzeRequest)
    (returned : Option (List Module)) (outcome : Outcome) : Prop where
  written : ∀ path modules, request.target? = some path → returned = some modules →
    outcome.workspace.files.read path = .ok (listing modules).toUTF8
  untouched : request.target? = none ∨ returned = none → outcome.workspace.files = files
  printed : outcome.output =
    if request.target? = none ∧ request.rawJson = true then
      (returned.map fun modules => listing modules ++ "\n").getD ""
    else ""

section Run

variable {parser : Parser} {workspace : Workspace} {rank : Nat} {request : AnalyzeRequest}

theorem files_configure : (configure workspace request).files = workspace.files := by
  unfold configure
  split <;> rfl

theorem readable_configure (readable : request.IsReadable workspace.files) :
    request.IsReadable (configure workspace request).files := by
  rwa [files_configure]

theorem usable_configure (usable : Usable workspace.configuration) :
    Usable (configure workspace request).configuration := by
  unfold configure
  split
  · rename_i name _
    have kept (sectionName key : String)
        (other : (sectionName, key) ≠ ("analysis", "property_decorator")) (fallback : Value) :
        (workspace.configuration.set "analysis" "property_decorator" (.text name)).lookup
          sectionName key fallback = workspace.configuration.lookup sectionName key fallback := by
      rw [Configuration.lookup, Configuration.set, OrderedMap.get?_insert, if_neg other]
      rfl
    refine ⟨?_, ?_, ?_⟩
    · rw [kept _ _ (by decide)]
      exact usable.level
    · simp only [Configuration.settings, Configuration.analysis]
      rw [kept _ _ (by decide)]
      exact usable.baseClasses
    · rw [Configuration.analysis, kept _ _ (by decide)]
      exact usable.extensions
  · exact usable

/-- A run of an accepted request is an analysis with some log level. -/
theorem exists_run_eq (usable : Usable workspace.configuration) {words : List String}
    {verbosity : Verbosity} (accepted : read words = .analyze verbosity request) :
    ∃ rank, run parser workspace words = runAnalyze parser workspace rank request := by
  have level : ∃ rank, threshold verbosity workspace.configuration = .ok rank := by
    obtain ⟨rank, configured⟩ := usable.level
    unfold threshold
    split
    · exact ⟨_, rfl⟩
    · split
      · exact ⟨_, rfl⟩
      · split
        · exact ⟨_, rfl⟩
        · rw [configured]
          exact ⟨rank, rfl⟩
  obtain ⟨rank, given⟩ := level
  refine ⟨rank, ?_⟩
  simp only [run, accepted, given]

theorem deliver_to_file {log : List LogRecord} {modules : List Module} {path : String}
    {files : FileSystem} (target : request.target? = some path)
    (writes : workspace.files.write path (listing modules).toUTF8 = .ok files) :
    deliver workspace request log modules =
      ⟨.exit (exitStatus modules), [], "", log, { workspace with files }⟩ := by
  have given : request.output.filter (· != "") = some path := target
  have writes : workspace.files.write path (resultDocument modules).pretty.toUTF8 = .ok files :=
    writes
  simp only [deliver, given, writes]

theorem deliver_to_console {log : List LogRecord} {modules : List Module}
    (target : request.target? = none) :
    deliver workspace request log modules =
      if request.rawJson then
        ⟨.exit (exitStatus modules), [], listing modules ++ "\n", log, workspace⟩
      else ⟨.exit (exitStatus modules), modules.flatMap moduleSection, "", log, workspace⟩ := by
  have given : request.output.filter (· != "") = none := target
  simp only [deliver, given]
  rfl

theorem deliver_delivers (place : request.HasPlace workspace.files) (log : List LogRecord)
    (modules : List Module) :
    Delivers workspace.files request (some modules) (deliver workspace request log modules) ∧
      (deliver workspace request log modules).ending = .exit (exitStatus modules) := by
  cases target : request.target? with
  | none =>
    rw [deliver_to_console target]
    have unwritten {outcome : Outcome} : ∀ path found, request.target? = some path →
        some modules = some found →
          outcome.workspace.files.read path = .ok (listing found).toUTF8 := by
      intro path found given
      cases target.symm.trans given
    cases raw : request.rawJson with
    | true => exact ⟨⟨unwritten, fun _ => rfl, by simp [target, raw]⟩, rfl⟩
    | false => exact ⟨⟨unwritten, fun _ => rfl, by simp [raw]⟩, rfl⟩
  | some path =>
    obtain ⟨location, found⟩ := place path target
    obtain ⟨files, writes⟩ : ∃ files, workspace.files.write path (listing modules).toUTF8 =
        .ok files := by
      rw [FileSystem.write, found]
      exact ⟨_, rfl⟩
    rw [deliver_to_file target writes]
    refine ⟨⟨?_, ?_, ?_⟩, rfl⟩
    · intro other modules' given same
      cases target.symm.trans given
      cases same
      exact FileSystem.read_write writes
    · rintro (none | none)
      · cases target.symm.trans none
      · cases none
    · rw [if_neg fun both => by cases target.symm.trans both.1]

theorem nothing_delivered (files : FileSystem) (ending : Ending) (console : List ConsoleItem)
    (log : List LogRecord) (configuration : Configuration) :
    Delivers files request none ⟨ending, console, "", log, ⟨files, configuration⟩⟩ where
  written := nofun
  untouched := fun _ => rfl
  printed := by split <;> rfl

/-- What a run gives out and how it ends follows from what its analysis returns. -/
theorem runAnalyze_delivers (usable : Usable workspace.configuration)
    (readable : request.IsReadable workspace.files) (place : request.HasPlace workspace.files) :
    let returned := returned? parser workspace request
    let outcome := runAnalyze parser workspace rank request
    Delivers workspace.files request returned outcome ∧
      outcome.ending = .exit (match returned with
        | some modules => exitStatus modules
        | none => 1) := by
  intro returned outcome
  simp only [returned, outcome, returned?, runAnalyze]
  cases workspace.files.hasPath request.path with
  | false => exact ⟨nothing_delivered _ _ _ _ _, rfl⟩
  | true =>
    have same : (configure workspace request).files = workspace.files := files_configure
    simp only [if_true]
    cases ends : (analyzePath parser (configure workspace request) request).result with
    | ok modules =>
      rw [← same] at place ⊢
      exact deliver_delivers place _ modules
    | error error =>
      have own := isOwn_of_analyzePath (usable_configure usable) (readable_configure readable) ends
      rw [← same]
      cases error with
      | badSetting message => cases own
      | unreachable error path => cases own
      | unsupportedLanguage | unencodable | fileMissing | rejected | aborted =>
        exact ⟨nothing_delivered _ _ _ _ _, rfl⟩

end Run

section Status

variable {parser : Parser} {workspace : Workspace} {words : List String} {verbosity : Verbosity}
  {request : AnalyzeRequest}

def Passes (parser : Parser) (workspace : Workspace) (request : AnalyzeRequest) : Prop :=
  workspace.files.hasPath request.path = true ∧
    AllClean (analyzePath parser (configure workspace request) request).result

theorem exitStatus_eq_zero_iff {modules : List Module} :
    exitStatus modules = 0 ↔ ∀ module ∈ modules, module.hasErrors = false := by
  unfold exitStatus
  cases failing : modules.any (·.hasErrors) with
  | true =>
    obtain ⟨module, listed, failed⟩ := List.any_eq_true.mp failing
    simp only [if_true, Nat.one_ne_zero, false_iff]
    intro clean
    rw [clean module listed] at failed
    cases failed
  | false =>
    simp only [Bool.false_eq_true, if_false, true_iff]
    intro module listed
    exact eq_false_of_ne_true (List.any_eq_false.mp failing module listed)

theorem exitStatus_eq_one_of_ne_zero {modules : List Module} (failed : exitStatus modules ≠ 0) :
    exitStatus modules = 1 := by
  unfold exitStatus at failed ⊢
  split
  · rfl
  · rename_i clean
    rw [if_neg clean] at failed
    exact absurd rfl failed

theorem run_delivers (usable : Usable workspace.configuration)
    (readable : request.IsReadable workspace.files)
    (accepted : read words = .analyze verbosity request)
    (place : request.HasPlace workspace.files) :
    let returned := returned? parser workspace request
    Delivers workspace.files request returned (run parser workspace words) ∧
      (run parser workspace words).ending = .exit (match returned with
        | some modules => exitStatus modules
        | none => 1) := by
  obtain ⟨rank, same⟩ : ∃ rank, run parser workspace words =
      runAnalyze parser workspace rank request := exists_run_eq usable accepted
  rw [same]
  exact runAnalyze_delivers usable readable place

variable (parser) in
theorem ending_of_run (usable : Usable workspace.configuration)
    (readable : request.IsReadable workspace.files)
    (accepted : read words = .analyze verbosity request)
    (place : request.HasPlace workspace.files) :
    (Passes parser workspace request ∧ (run parser workspace words).ending = .exit 0) ∨
      (¬ Passes parser workspace request ∧ (run parser workspace words).ending = .exit 1) := by
  have ends : (run parser workspace words).ending =
      .exit (match returned? parser workspace request with
        | some modules => exitStatus modules
        | none => 1) := (run_delivers usable readable accepted place).2
  unfold returned? at ends
  unfold Passes
  cases there : workspace.files.hasPath request.path with
  | false =>
    rw [there] at ends
    exact .inr ⟨fun passes => Bool.false_ne_true passes.1, ends⟩
  | true =>
    rw [there, if_pos rfl] at ends
    cases result : (analyzePath parser (configure workspace request) request).result with
    | error error =>
      rw [result] at ends
      refine .inr ⟨?_, ends⟩
      rintro ⟨-, modules, returned, -⟩
      cases returned
    | ok modules =>
      rw [result] at ends
      by_cases clean : exitStatus modules = 0
      · refine .inl ⟨⟨rfl, modules, rfl, exitStatus_eq_zero_iff.mp clean⟩, ?_⟩
        rw [ends]
        exact congrArg Ending.exit clean
      · refine .inr ⟨?_, ?_⟩
        · rintro ⟨-, others, returned, allClean⟩
          cases returned
          exact clean (exitStatus_eq_zero_iff.mpr allClean)
        · rw [ends]
          exact congrArg Ending.exit (exitStatus_eq_one_of_ne_zero clean)

/-- What is asked for besides the files does not decide whether they pass. -/
theorem passes_congr (usable : Usable workspace.configuration)
    (readable : request.IsReadable workspace.files) {other : AnalyzeRequest}
    (path : other.path = request.path) (recursive : other.recursive = request.recursive)
    (decorator : other.decorator = request.decorator) :
    Passes parser workspace other ↔ Passes parser workspace request := by
  have configured : configure workspace other = configure workspace request := by
    unfold configure
    rw [decorator]
  have files : searched (configure workspace request) other =
      searched (configure workspace request) request := by
    unfold searched
    rw [path, recursive]
  have usable : Usable (configure workspace request).configuration := usable_configure usable
  have readable := readable_configure readable
  have readableToo : other.IsReadable (configure workspace request).files := by
    rwa [AnalyzeRequest.IsReadable, path, recursive]
  rw [Passes, Passes, configured, path, result_analyzePath usable readable,
    result_analyzePath usable readableToo, files, benchOf, benchOf,
    allClean_strict_iff neverAborts_syntactic _ other.strict,
    allClean_strict_iff neverAborts_syntactic _ request.strict]

theorem not_passes_iff (usable : Usable workspace.configuration)
    (readable : request.IsReadable workspace.files) :
    let analysis := (analyzePath parser (configure workspace request) request).result
    ¬ Passes parser workspace request ↔ workspace.files.hasPath request.path = false ∨
      (∃ error, analysis = .error error ∧ error.isOwn = true) ∨
        ∃ modules, analysis = .ok modules ∧ ∃ module ∈ modules, module.hasErrors = true := by
  intro analysis
  unfold Passes
  cases there : workspace.files.hasPath request.path with
  | false => simp
  | true =>
    cases result : (analyzePath parser (configure workspace request) request).result with
    | error error =>
      have own := isOwn_of_analyzePath (usable_configure usable) (readable_configure readable) result
      simp [AllClean, analysis, result, own]
    | ok modules => simp [AllClean, analysis, result]

/-- The modules that are listed are those of the files that were searched, in their order. -/
theorem forall₂_of_returned (usable : Usable workspace.configuration)
    (readable : request.IsReadable workspace.files) {modules : List Module}
    (returned : returned? parser workspace request = some modules) :
    List.Forall₂ (fun path module => module.path = some path ∧
        (analyzeFile (benchOf parser (configure workspace request) request.strict)
          workspace.files path).result = .ok module)
      (searched (configure workspace request) request) modules := by
  unfold returned? at returned
  split at returned
  · have ends := toOption_eq_some_iff.mp returned
    rw [result_analyzePath (usable_configure usable) (readable_configure readable),
      files_configure] at ends
    refine List.Forall₂.imp ?_ (forall₂_of_analyzeFiles ends)
    exact fun path module same => ⟨path_of_analyzeFile same, same⟩
  · cases returned

end Status

/-- A workspace with one file, whose second class is rejected. -/
def oneFile : Workspace where
  files := ⟨.ofPairs [(["work", "two.ts"], twoClassesText.toUTF8)], [], ["work"]⟩
  configuration := .default

end ReactiveProps.CommandLine
