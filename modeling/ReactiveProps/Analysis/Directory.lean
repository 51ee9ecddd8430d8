import ReactiveProps.Analysis.Analyze
import ReactiveProps.Files.SourceFile

/-!
# Analysis of files and directories
-/
namespace ReactiveProps.Analysis

open Files

/-- What an analysis of files needs besides the files. -/
structure Workbench where
  parser : Parser
  analyzer : Analyzer
  configuration : Configuration

def analyzeFile (bench : Workbench) (fs : FileSystem) (path : String) : Logged Module :=
  if fs.isFile path then
    match fs.load path with
    | .ok text =>
      analyze bench.parser bench.analyzer bench.configuration.settings
        ⟨.ofString text, some path, none⟩
    | .error _ => ⟨[], .error (.fileMissing path)⟩
  else ⟨[], .error (.fileMissing path)⟩

/-- Analyzes files one after the other, up to the first that fails. -/
def analyzeFiles (bench : Workbench) (fs : FileSystem) : List String → Logged (List Module)
  | [] => ⟨[], .ok []⟩
  | path :: rest =>
    let first := analyzeFile bench fs path
    match first.result with
    | .error error => ⟨first.events, .error error⟩
    | .ok module =>
      let others := analyzeFiles bench fs rest
      ⟨first.events ++ others.events, others.result.map (module :: ·)⟩

/-- What the analysis of the files that a search found ends in. A search that ended early is an
error, unless the analysis of a file before was one. -/
def afterSearch (search : Search) (result : Except AnalysisError (List Module)) :
    Except AnalysisError (List Module) :=
  match search.tooLong? with
  | some path => result.bind fun _ => .error (.unreachable .tooLong path)
  | none => result

def analyzeDirectory (bench : Workbench) (fs : FileSystem) (root : String)
    (recursive : Bool) : Logged (List Module) :=
  match (bench.configuration.analysis "file_extensions").members? with
  | .error message => ⟨[], .error (.badSetting message)⟩
  | .ok extensions =>
    let search := fs.search extensions root recursive
    let outcome := analyzeFiles bench fs search.sources
    ⟨outcome.events, afterSearch search outcome.result⟩

end ReactiveProps.Analysis
