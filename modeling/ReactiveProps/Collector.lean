import ReactiveProps.Event

/-!
# Diagnostic collectors

A collector gathers the diagnostics of one module in the order in which they are made. Its path,
which may change, is given to the diagnostics that come without one.
-/
namespace ReactiveProps

structure Collector where
  path : Option String
  diagnostics : List Diagnostic
  deriving DecidableEq, Repr

namespace Collector

def new (path : Option String) : Collector := ⟨path, []⟩

/-- A diagnostic with the collector's path if it has none of its own. -/
def located (collector : Collector) (diagnostic : Diagnostic) : Diagnostic :=
  { diagnostic with path := diagnostic.path.or collector.path }

def add (collector : Collector) (diagnostic : Diagnostic) : Collector :=
  { collector with
    diagnostics := collector.diagnostics ++ [collector.located diagnostic] }

/-- The diagnostic that `report` makes. -/
def made (collector : Collector) (severity : Severity) (message : String)
    (range : Option SourceRange) (className : Option String) : Diagnostic :=
  ⟨severity, message, range, className, collector.path⟩

def report (collector : Collector) (severity : Severity) (message : String)
    (range : Option SourceRange) (className : Option String) : Collector :=
  { collector with
    diagnostics := collector.diagnostics ++ [collector.made severity message range className] }

def setPath (collector : Collector) (path : Option String) : Collector :=
  { collector with path }

def size (collector : Collector) : Nat := collector.diagnostics.length

def hasErrors (collector : Collector) : Bool :=
  collector.diagnostics.any fun diagnostic => diagnostic.severity == .error

def defaultLogger : String := "litanalyzer.core.diagnostics"

/-- One record per diagnostic, in order, at the level of its severity. The default logger takes the
place of one that is not named. -/
def logAll (collector : Collector) (logger : Option String) : List LogRecord :=
  let logger := (logger.filter (· != "")).getD defaultLogger
  collector.diagnostics.map fun diagnostic =>
    ⟨.ofSeverity diagnostic.severity, logger, diagnostic.text⟩

end Collector

end ReactiveProps
