import ReactiveProps.Diagnostic
import ReactiveProps.OrderedMap

/-!
# Errors about a class

Why the properties of a class could not be extracted, and at which node.
-/
namespace ReactiveProps.Property

open SyntaxTree

inductive Problem
  /-- The name of a field or getter is not a plain name. -/
  | propertyName
  /-- The static properties member has no object literal. -/
  | staticFormat
  /-- An entry of the static properties object is not a plain key with an object. -/
  | staticEntry
  /-- The type resolver broke down. -/
  | typeResolution (reason : String)
  /-- The type resolver reported a problem of its own. -/
  | reported (message : String)
  deriving DecidableEq, Repr

def Problem.message : Problem → String
  | propertyName => "Unsupported property name"
  | staticFormat =>
    "Unsupported static properties format. Expected an object literal assigned in a static "
      ++ "initializer or returned from a static getter."
  | staticEntry =>
    "Unsupported static properties entry. Expected a string identifier key and object literal "
      ++ "value."
  | typeResolution reason => "Type resolution failed: " ++ reason
  | reported message => message

/-- Only an error that a resolver reports can be about no node or have details. -/
structure ClassError where
  problem : Problem
  node : Option Node
  details : OrderedMap String Value

namespace ClassError

/-- An error about a node, without details. -/
def about (problem : Problem) (node : Node) : ClassError := ⟨problem, some node, .empty⟩

def message (error : ClassError) : String := error.problem.message

def range (error : ClassError) (source : Source) : Option SourceRange :=
  error.node.map (.ofNode source)

def diagnostic (error : ClassError) (source : Source) (className path : Option String) :
    Diagnostic :=
  ⟨.error, error.message, error.range source, className, path⟩

end ClassError

/-- An error about the class, or one that the type resolver uses to end the whole analysis. -/
inductive ExtractionError
  | rejected (error : ClassError)
  | aborted (message : String)

end ReactiveProps.Property
