import ReactiveProps.Property.ReactiveProperty

/-!
# Analyzed modules

The result of analyzing a module: its elements with their properties, and its diagnostics.
-/
namespace ReactiveProps

structure ElementDeclaration where
  name : String
  tag : Option String
  range : Option SourceRange
  properties : Property.PropertyMap

def ElementDeclaration.document (element : ElementDeclaration) : Json :=
  .object [
    ("name", .text element.name),
    ("tagName", .ofText? element.tag),
    ("line", .ofInt? (element.range.map (·.startLine))),
    ("reactiveProperties", .array (element.properties.values.map (·.document)))]

structure Module where
  path : Option String
  elements : List ElementDeclaration
  diagnostics : List Diagnostic

namespace Module

def hasErrors (module : Module) : Bool :=
  module.diagnostics.any fun diagnostic => diagnostic.severity == .error

/-- The position of the first element with the given name. -/
def elementIndex? (module : Module) (name : String) : Option Nat :=
  module.elements.findIdx? fun element => element.name == name

def element? (module : Module) (name : String) : Option ElementDeclaration :=
  module.elements.find? fun element => element.name == name

def document (module : Module) : Json :=
  .object [
    ("path", .ofText? module.path),
    ("elements", .array (module.elements.map (·.document))),
    ("diagnostics", .array (module.diagnostics.map (·.document)))]

end Module

end ReactiveProps
