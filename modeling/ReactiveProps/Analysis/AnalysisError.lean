import ReactiveProps.Analysis.ErrorView
import ReactiveProps.Analysis.Grammar
import ReactiveProps.Files.FileSystem
import ReactiveProps.Text.Encoding

/-!
# Why an analysis fails
-/
namespace ReactiveProps.Analysis

inductive AnalysisError
  | unsupportedLanguage (name : String)
  | unencodable (error : Text.EncodingError) (grammar : Grammar)
  | fileMissing (path : String)
  /-- A class was rejected; its name is known once the analysis of the module gives up. -/
  | rejected (error : Property.ClassError) (range : Option SourceRange)
      (className : Option String)
  | aborted (message : String)
  /-- A setting has a value that cannot be used at all. -/
  | badSetting (message : String)
  /-- A directory cannot be looked up. -/
  | unreachable (error : Files.FileError) (path : String)

namespace AnalysisError

/-- The context of an error, in the order in which it was written. -/
def context : AnalysisError → Context
  | unsupportedLanguage name => .ofPairs [("language", .text name)]
  | unencodable _ grammar => .ofPairs [("path", .null), ("language", .text grammar.name)]
  | fileMissing path => .ofPairs [("path", .text path)]
  | rejected error range className =>
    let located := match range with
      | some range => error.details.insertNew "location" (.text range.text)
      | none => error.details
    match className with
    | some name => located.insert "class_name" (.text name)
    | none => located
  | aborted _ => .empty
  | badSetting _ => .empty
  | unreachable _ _ => .empty

def text : AnalysisError → String
  | unsupportedLanguage name => unsupportedLanguageText (.text name)
  | unencodable error _ => "Could not parse source: " ++ error.message
  | fileMissing path => "File not found: " ++ path
  | rejected error _ _ => error.message
  | aborted message => message
  | badSetting message => message
  | unreachable error path => error.message path

def kind : AnalysisError → ErrorKind
  | unsupportedLanguage _ => .unsupportedLanguage
  | unencodable _ _ => .parsing
  | fileMissing _ => .parsing
  | rejected error _ _ => .ofProblem error.problem
  | aborted _ => .general
  | badSetting _ => .general
  | unreachable _ _ => .general

def range? : AnalysisError → Option SourceRange
  | rejected _ range _ => range
  | _ => none

def cause : AnalysisError → Option Cause
  | unencodable _ _ => some .encoding
  | rejected error _ _ =>
    match error.problem with
    | .typeResolution _ => some .resolver
    | _ => none
  | _ => none

def view (error : AnalysisError) : ErrorView :=
  ⟨error.kind, error.text, error.context, error.range?, error.cause⟩

def ofExtraction (source : SyntaxTree.Source) (className : Option String) :
    Property.ExtractionError → AnalysisError
  | .rejected error => rejected error (error.range source) className
  | .aborted message => aborted message

end AnalysisError

/-- The grammar that a value names. A list cannot be looked up at all. -/
def Grammar.ofValue : Value → Except AnalysisError Grammar
  | .list _ => .error (.badSetting "unhashable type: 'list'")
  | value =>
    match value.text?.bind Grammar.ofName? with
    | some grammar => .ok grammar
    | none => .error (.unsupportedLanguage value.display)

/-- The grammar for a path. Only texts are paths. -/
def Grammar.ofPathValue : Value → Except AnalysisError Grammar
  | .text path => .ok (.ofPath path)
  | value => .error (.badSetting
      ("expected str, bytes or os.PathLike object, not " ++ value.typeName))

end ReactiveProps.Analysis
