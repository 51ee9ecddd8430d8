import ReactiveProps.Diagnostic

/-!
# Log events

What the analysis logs, as data. Level, logger name and wording of a record follow from the event.
-/
namespace ReactiveProps

inductive Level
  | debug
  | info
  | warning
  | error
  deriving DecidableEq, Repr

namespace Level

def word : Level → String
  | debug => "DEBUG"
  | info => "INFO"
  | warning => "WARNING"
  | error => "ERROR"

def rank : Level → Nat
  | debug => 10
  | info => 20
  | warning => 30
  | error => 40

/-- The rank that a level name stands for when it sets how much is logged. -/
def threshold? (name : String) : Option Nat :=
  match name with
  | "NOTSET" => some 0
  | "DEBUG" => some debug.rank
  | "INFO" => some info.rank
  | "WARN" => some warning.rank
  | "WARNING" => some warning.rank
  | "ERROR" => some error.rank
  | "FATAL" => some 50
  | "CRITICAL" => some 50
  | _ => none

def ofSeverity : Severity → Level
  | .error => error
  | .warning => warning
  | .info => info

end Level

structure LogRecord where
  level : Level
  logger : String
  message : String
  deriving DecidableEq, Repr

namespace LogRecord

/-- The record as a line of the log. -/
def line (record : LogRecord) : String :=
  record.level.word ++ ":" ++ record.logger ++ ":" ++ record.message ++ "\n"

/-- The logger that all loggers of the analysis are below. -/
def packageLogger : String := "litanalyzer"

/-- Whether a record comes from the logger of the package or one below it. -/
def isOfPackage (record : LogRecord) : Bool :=
  record.logger == packageLogger || record.logger.startsWith (packageLogger ++ ".")

def atLeast (threshold : Nat) (records : List LogRecord) : List LogRecord :=
  records.filter fun record => threshold ≤ record.level.rank

end LogRecord

inductive Event
  /-- The parser found errors in the module. -/
  | brokenSource (path : Option String)
  /-- A call registers a tag for the class of this name. -/
  | tagDefined (className : String)
  /-- A property decorator has a first argument that is no object literal. -/
  | optionsIgnored (argument : String)
  /-- A class has another static properties member of this name. -/
  | staticMemberIgnored (name : String)
  /-- An assignment in the constructor gives the field of this name a type. -/
  | hintFound (name : String)
  /-- The type of an expression of this kind cannot be read off it. -/
  | typeUnknown (kind : SyntaxTree.Kind)
  | propertiesExtracted (count : Nat)
  | classSkipped (className message : String)
  | moduleAnalyzed (path : Option String) (elements diagnostics : Nat)
  deriving DecidableEq, Repr

namespace Event

def level : Event → Level
  | brokenSource _ => .warning
  | staticMemberIgnored _ => .warning
  | classSkipped _ _ => .info
  | _ => .debug

def logger : Event → String
  | brokenSource _ => "litanalyzer.analyzer"
  | tagDefined _ => "litanalyzer.lit_element.classes"
  | optionsIgnored _ => "litanalyzer.lit_element.decorators"
  | staticMemberIgnored _ => "litanalyzer.lit_element.members"
  | hintFound _ => "litanalyzer.lit_element.constructor"
  | typeUnknown _ => "litanalyzer.type_resolver"
  | propertiesExtracted _ => "litanalyzer.lit_element.properties"
  | classSkipped _ _ => "litanalyzer.analyzer"
  | moduleAnalyzed _ _ _ => "litanalyzer.analyzer"

def message : Event → String
  | brokenSource path => "Syntax errors in " ++ shownPath path ++ "; results may be incomplete"
  | tagDefined className => "customElements.define for '" ++ className ++ "'"
  | optionsIgnored argument =>
    "Property decorator argument is not an object literal: " ++ argument
  | staticMemberIgnored name => "Ignoring additional static '" ++ name ++ "' declaration"
  | hintFound name => "Constructor initializer hint for '" ++ name ++ "'"
  | typeUnknown kind => "No inferred type for expression of kind '" ++ kind.tag ++ "'"
  | propertiesExtracted count => "Extracted " ++ toString count ++ " reactive properties"
  | classSkipped className message => "Skipping class " ++ className ++ ": " ++ message
  | moduleAnalyzed path elements diagnostics =>
    "Analyzed " ++ shownPath path ++ ": " ++ toString elements ++ " elements, "
      ++ toString diagnostics ++ " diagnostics"

def record (event : Event) : LogRecord :=
  ⟨event.level, event.logger, event.message⟩

end Event

end ReactiveProps
