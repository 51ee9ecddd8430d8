import ReactiveProps.Json
import ReactiveProps.SyntaxTree.Source
import ReactiveProps.Value

/-!
# Diagnostics and source ranges

A diagnostic is a finding about a module: how severe it is, what it says and where it belongs.
-/
namespace ReactiveProps

inductive Severity
  | error
  | warning
  | info
  deriving DecidableEq, Repr

namespace Severity

def word : Severity → String
  | error => "error"
  | warning => "warning"
  | info => "info"

def ofWord? (word : String) : Option Severity :=
  [error, warning, info].find? fun severity => severity.word == word

theorem ofWord?_word (severity : Severity) : ofWord? severity.word = some severity := by
  cases severity <;> decide

/-- The severity that a value names. -/
def ofValue (value : Value) : Except String Severity :=
  match value.text?.bind ofWord? with
  | some severity => .ok severity
  | none => .error (value.displayInner ++ " is not a valid DiagnosticSeverity")

end Severity

/-- Lines count from one and columns, where known, from zero in bytes. A range that is not taken
from a node may hold any numbers. -/
structure SourceRange where
  startLine : Int
  startColumn : Option Int
  endLine : Int
  endColumn : Option Int
  /-- The node that the range was taken from. -/
  node : Option Nat
  deriving DecidableEq, Repr

namespace SourceRange

def ofNode (source : SyntaxTree.Source) (node : SyntaxTree.Node) : SourceRange :=
  let first := source.position node.span.start
  let last := source.position node.span.stop
  ⟨first.line + 1, some first.column, last.line + 1, some last.column, some node.id⟩

/-- An unknown column shows as zero. -/
def text (range : SourceRange) : String :=
  toString range.startLine ++ ":" ++ toString (range.startColumn.getD 0) ++ "-"
    ++ toString range.endLine ++ ":" ++ toString (range.endColumn.getD 0)

end SourceRange

/-- The name under which a module appears in messages. -/
def shownPath (path : Option String) : String :=
  match path with
  | some path => if path = "" then "<source>" else path
  | none => "<source>"

structure Diagnostic where
  severity : Severity
  message : String
  range : Option SourceRange
  className : Option String
  path : Option String
  deriving DecidableEq, Repr

namespace Diagnostic

/-- Path, position and message on one line; here columns count from one. -/
def text (diagnostic : Diagnostic) : String :=
  let place := match diagnostic.range with
    | some range =>
      ":" ++ toString range.startLine ++ ":" ++ toString (range.startColumn.getD 0 + 1)
    | none => ""
  shownPath diagnostic.path ++ place ++ ": " ++ diagnostic.severity.word ++ ": "
    ++ diagnostic.message

def document (diagnostic : Diagnostic) : Json :=
  .object [
    ("severity", .text diagnostic.severity.word),
    ("message", .text diagnostic.message),
    ("line", .ofInt? (diagnostic.range.map (·.startLine))),
    ("column", .ofInt? (diagnostic.range.bind (·.startColumn))),
    ("class_name", .ofText? diagnostic.className),
    ("path", .ofText? diagnostic.path)]

end Diagnostic

end ReactiveProps
