import ReactiveProps.Analysis.AnalysisError
import ReactiveProps.Element.Discovery
import ReactiveProps.Module
import ReactiveProps.Property.Extraction
import ReactiveProps.SyntaxTree.Listing

/-!
# Analysis of a module

The analysis goes through the element classes of a module in preorder. In a strict run the first
class that fails ends it; otherwise that class becomes a diagnostic and the analysis goes on.
-/
namespace ReactiveProps.Analysis

open SyntaxTree Typing

/-- A result or error with the events logged on the way. -/
structure Logged (α : Type) where
  events : List Event
  result : Except AnalysisError α

def anonymous : String := "<anonymous>"

def shownName (name : Option String) : String :=
  match name with
  | some name => if name = "" then anonymous else name
  | none => anonymous

/-- How classes are analyzed. -/
structure Analyzer where
  resolver : Resolver
  strict : Bool

/-- An analyzer keeps the strictness that the configuration asks for when it is made. -/
def Analyzer.new (configuration : Configuration) (resolver : Option Resolver)
    (strict : Option Bool) : Analyzer :=
  ⟨resolver.getD syntactic, strict.getD configuration.strictByDefault⟩

/-- A module to be analyzed, apart from its path. -/
structure Parsed where
  source : Source
  tree : Parse

def declaration (settings : Settings) (source : Source)
    (definitions : OrderedMap String String) (cls : Site)
    (properties : Property.PropertyMap) : ElementDeclaration where
  name := shownName (Element.className? source cls)
  tag := Element.tag? settings source definitions cls
  range := some (.ofNode source cls.node)
  properties := properties

/-- The declaration of a class; none if the class was rejected and the run is not strict. -/
def analyzeClass (analyzer : Analyzer) (settings : Settings) (source : Source)
    (path : Option String) (definitions : OrderedMap String String) (cls : Site) :
    Report AnalysisError (Option ElementDeclaration) :=
  let name := shownName (Element.className? source cls)
  let report := Property.properties settings analyzer.resolver source path cls.node
  match report.outcome with
  | .ok properties =>
    ⟨report.events, report.diagnostics,
      .ok (some (declaration settings source definitions cls properties))⟩
  | .error (.aborted message) =>
    ⟨report.events, report.diagnostics, .error (.aborted message)⟩
  | .error (.rejected error) =>
    if analyzer.strict then
      ⟨report.events, report.diagnostics,
        .error (.rejected error (error.range source) (some name))⟩
    else
      ⟨report.events ++ [.classSkipped name error.message],
        report.diagnostics ++ [error.diagnostic source (some name) path], .ok none⟩

def analyzeClasses (analyzer : Analyzer) (settings : Settings) (source : Source)
    (path : Option String) (definitions : OrderedMap String String) :
    List Site → Report AnalysisError (List ElementDeclaration)
  | [] => .ok []
  | cls :: rest =>
    (analyzeClass analyzer settings source path definitions cls).andThen fun element =>
      (analyzeClasses analyzer settings source path definitions rest).andThen fun elements =>
        .ok (element.toList ++ elements)

/-- The element classes of a module. It takes usable base classes to tell whether a class with a
heritage is an element. -/
def elementClasses (settings : Settings) (source : Source) (root : Node) :
    Except AnalysisError (List Site) :=
  let classes := Element.classesAt (.root root)
  match settings.baseClasses with
  | .ok names => .ok (classes.filter fun cls => Element.isElement source names cls.node)
  | .error message =>
    if classes.any fun cls => (Element.heritage? cls.node).isSome then
      .error (.badSetting message)
    else .ok []

/-- What is logged before the first class is looked at. -/
def openingEvents (path : Option String) (parsed : Parsed) : List Event :=
  (if parsed.tree.hasErrors then [.brokenSource path] else []) ++
    (Element.registrations parsed.source parsed.tree.root).map fun (name, _) => .tagDefined name

def analyzeParsed (analyzer : Analyzer) (settings : Settings) (path : Option String)
    (parsed : Parsed) : Logged Module :=
  let opening := openingEvents path parsed
  match elementClasses settings parsed.source parsed.tree.root with
  | .error error => ⟨opening, .error error⟩
  | .ok classes =>
    let definitions := Element.definitions parsed.source parsed.tree.root
    let report := analyzeClasses analyzer settings parsed.source path definitions classes
    match report.outcome with
    | .error error => ⟨opening ++ report.events, .error error⟩
    | .ok elements =>
      ⟨opening ++ report.events
          ++ [.moduleAnalyzed path elements.length report.diagnostics.length],
        .ok ⟨path, elements, report.diagnostics⟩⟩

/-- A parser for every grammar. -/
abbrev Parser := Grammar → String → Parse

structure Job where
  code : Text.RawText
  path : Option String
  /-- The name of a grammar to use instead of the one for the path. -/
  language : Option String

/-- The grammar of a job; an empty language name counts as none. -/
def Job.grammar (job : Job) : Except AnalysisError Grammar :=
  match job.language.filter (· != "") with
  | none => .ok (.ofPath (job.path.getD ""))
  | some name =>
    match Grammar.ofName? name with
    | some grammar => .ok grammar
    | none => .error (.unsupportedLanguage name)

def parse (parser : Parser) (grammar : Grammar) (code : Text.RawText) :
    Except AnalysisError Parsed :=
  match code.encode with
  | .ok text => .ok ⟨.ofString text, parser grammar text⟩
  | .error error => .error (.unencodable error grammar)

def Job.parsed (parser : Parser) (job : Job) : Except AnalysisError Parsed :=
  match job.grammar with
  | .ok grammar => parse parser grammar job.code
  | .error error => .error error

def analyze (parser : Parser) (analyzer : Analyzer) (settings : Settings) (job : Job) :
    Logged Module :=
  match job.parsed parser with
  | .ok parsed => analyzeParsed analyzer settings job.path parsed
  | .error error => ⟨[], .error error⟩

end ReactiveProps.Analysis
