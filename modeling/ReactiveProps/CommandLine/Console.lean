import ReactiveProps.Module

/-!
# Console output

What the command line shows on the console: tables of properties, diagnostics and notices. Texts
may hold markup in brackets.
-/
namespace ReactiveProps.CommandLine

inductive ConsoleItem
  | text (text : String)
  | table (title : String) (columns : List String) (rows : List (List String))
  | panel (text title style : String)
  | rule (title : String)
  deriving DecidableEq, Repr

/-- An item as plain lines, the cells of a table set apart by tabs. -/
def ConsoleItem.lines : ConsoleItem → List String
  | text content => [content]
  | table title columns rows => title :: (columns :: rows).map ("\t".intercalate ·)
  | panel content title _ => [title ++ ": " ++ content]
  | rule title => ["== " ++ title]

/-- A dash stands for what is missing or empty. -/
def cell (text : Option String) : String :=
  match text with
  | some text => if text = "" then "-" else text
  | none => "-"

def propertyColumns : List String :=
  ["property", "type", "attribute", "typeOption", "reflect", "converter"]

def propertyRow (property : Property.ReactiveProperty) : List String :=
  [property.name, cell (property.type.map (·.text)), cell property.attributeName,
    cell property.typeOption, if property.reflect then "yes" else "no",
    cell (property.converter.map (·.text))]

def elementTitle (element : ElementDeclaration) : String :=
  match element.tag with
  | some tag => if tag = "" then element.name else element.name ++ " <" ++ tag ++ ">"
  | none => element.name

def elementTable (element : ElementDeclaration) : ConsoleItem :=
  .table (elementTitle element) propertyColumns (element.properties.values.map propertyRow)

def diagnosticLine (diagnostic : Diagnostic) : ConsoleItem :=
  let style := if diagnostic.severity = .error then "red" else "yellow"
  .text ("[" ++ style ++ "]" ++ diagnostic.text ++ "[/" ++ style ++ "]")

def moduleItems (module : Module) : List ConsoleItem :=
  module.elements.map elementTable ++ module.diagnostics.map diagnosticLine

/-- A module under a rule with its name. -/
def moduleSection (module : Module) : List ConsoleItem :=
  .rule (shownPath module.path) :: moduleItems module

end ReactiveProps.CommandLine
