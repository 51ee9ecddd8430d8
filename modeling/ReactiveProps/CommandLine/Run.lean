import ReactiveProps.Analysis.Directory
import ReactiveProps.CommandLine.Command
import ReactiveProps.CommandLine.Console
import ReactiveProps.CommandLine.Help
import ReactiveProps.CommandLine.LogLevel

/-!
# Runs of the command line

A run reads its words, analyzes a file or a directory, and shows or writes the result. It ends
with an exit status, which is 1 if the analysis failed or found an error.
-/
namespace ReactiveProps.CommandLine

open Analysis Files
open Text.Template (TemplateError)

/-- What lasts from run to run. -/
structure Workspace where
  files : FileSystem
  configuration : Configuration

inductive Ending
  | exit (status : Nat)
  | fileError (error : FileError) (path : String)
  | levelError (error : LevelError)
  /-- The help for `analyze` cannot be filled in. -/
  | helpError (error : TemplateError)
  /-- A setting has a value that cannot be used at all. -/
  | badSetting (message : String)
  deriving DecidableEq, Repr

namespace Ending

/-- The exit status; what is not an exit of its own counts as a failure. -/
def status : Ending → Nat
  | exit status => status
  | _ => 1

/-- What there is to say about an ending that is no exit. -/
def message? : Ending → Option String
  | exit _ => none
  | fileError error path => some (error.message path)
  | levelError error => some error.message
  | helpError error => some error.message
  | badSetting message => some message

end Ending

structure Outcome where
  ending : Ending
  console : List ConsoleItem
  output : String
  log : List LogRecord
  workspace : Workspace

/-- The rank from which on records are logged. -/
def threshold (verbosity : Verbosity) (configuration : Configuration) : Except Ending Nat :=
  if verbosity.debug then .ok Level.debug.rank
  else if verbosity.quiet then .ok Level.error.rank
  else if verbosity.verbose then .ok Level.info.rank
  else
    match configuredRank (configuration.lookup "logging" "level" (.text "WARNING")) with
    | .ok rank => .ok rank
    | .error error => .error (.levelError error)

/-- The document that lists the analyzed modules. -/
def resultDocument (modules : List Module) : Json :=
  .object [("modules", .array (modules.map (·.document)))]

/-- Analyzes the file or directory at the path of a request. -/
def analyzePath (parser : Parser) (workspace : Workspace) (request : AnalyzeRequest) :
    Logged (List Module) :=
  let bench : Workbench :=
    ⟨parser, .new workspace.configuration none (some request.strict), workspace.configuration⟩
  if workspace.files.isFolder request.path then
    analyzeDirectory bench workspace.files request.path request.recursive
  else
    let outcome := analyzeFile bench workspace.files request.path
    ⟨outcome.events, outcome.result.map ([·])⟩

def failurePanel (error : AnalysisError) : ConsoleItem :=
  .panel error.view.message "Analysis failed" "red"

def notFound (path : String) : ConsoleItem :=
  .text ("[bold red]Path not found:[/bold red] " ++ path)

def exitStatus (modules : List Module) : Nat :=
  if modules.any (·.hasErrors) then 1 else 0

/-- Writes or shows the analyzed modules: to a file if one is named, else as JSON if that is asked
for, else as tables. -/
def deliver (workspace : Workspace) (request : AnalyzeRequest) (log : List LogRecord)
    (modules : List Module) : Outcome :=
  let ending := Ending.exit (exitStatus modules)
  let document := (resultDocument modules).pretty
  match request.output.filter (· != "") with
  | some path =>
    match workspace.files.write path document.toUTF8 with
    | .ok files => ⟨ending, [], "", log, { workspace with files }⟩
    | .error error => ⟨.fileError error path, [], "", log, workspace⟩
  | none =>
    if request.rawJson then ⟨ending, [], document ++ "\n", log, workspace⟩
    else ⟨ending, modules.flatMap moduleSection, "", log, workspace⟩

/-- A decorator given as an option stays configured. -/
def configure (workspace : Workspace) (request : AnalyzeRequest) : Workspace :=
  match request.decorator.filter (· != "") with
  | some name =>
    { workspace with
      configuration :=
        workspace.configuration.set "analysis" "property_decorator" (.text name) }
  | none => workspace

def runAnalyze (parser : Parser) (workspace : Workspace) (rank : Nat)
    (request : AnalyzeRequest) : Outcome :=
  if workspace.files.hasPath request.path then
    let workspace := configure workspace request
    let outcome := analyzePath parser workspace request
    let log := LogRecord.atLeast rank (outcome.events.map Event.record)
    match outcome.result with
    | .ok modules => deliver workspace request log modules
    | .error (.badSetting message) => ⟨.badSetting message, [], "", log, workspace⟩
    | .error (.unreachable error path) => ⟨.fileError error path, [], "", log, workspace⟩
    | .error error => ⟨.exit 1, [failurePanel error], "", log, workspace⟩
  else ⟨.exit 1, [notFound request.path], "", [], workspace⟩

def run (parser : Parser) (workspace : Workspace) (words : List String) : Outcome :=
  match read words with
  | .refused => ⟨.exit 2, [], "", [], workspace⟩
  | .generalHelp => ⟨.exit 0, [], generalHelp, [], workspace⟩
  | .analyzeHelp =>
    let decorator := workspace.configuration.analysis "property_decorator"
    match analyzeHelp decorator.display with
    | .ok help => ⟨.exit 0, [], help, [], workspace⟩
    | .error error => ⟨.helpError error, [], "", [], workspace⟩
  | .noCommand verbosity =>
    match threshold verbosity workspace.configuration with
    | .ok _ => ⟨.exit 0, [], generalHelp, [], workspace⟩
    | .error ending => ⟨ending, [], "", [], workspace⟩
  | .analyze verbosity request =>
    match threshold verbosity workspace.configuration with
    | .ok rank => runAnalyze parser workspace rank request
    | .error ending => ⟨ending, [], "", [], workspace⟩

end ReactiveProps.CommandLine
