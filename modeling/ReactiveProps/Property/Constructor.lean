import ReactiveProps.Property.Members

/-!
# Hints from the constructor

An assignment to a field at the top level of the constructor lends its right-hand side to the type
of a property that no field declares.
-/
namespace ReactiveProps.Property

open SyntaxTree

def constructor? (source : Source) (cls : Node) : Option Node :=
  (cls.classMembers.map Site.node).find? (·.isConstructor source)

/-- The assignments to fields among the statements of the constructor's body. -/
def constructorAssignments (source : Source) (cls : Node) : List (String × Node) :=
  match constructor? source cls with
  | none => []
  | some method =>
    (method.itemsOf .body).filterMap fun statement =>
      statement.thisAssignment?.map fun (name, value) => (source.text name, value)

/-- Adds the assignments whose names are new. -/
def addAssignments {ε : Type} (hints : OrderedMap String Node) :
    List (String × Node) → Report ε (OrderedMap String Node)
  | [] => .ok hints
  | (name, value) :: rest =>
    if hints.contains name then addAssignments hints rest
    else (addAssignments (hints.insert name value) rest).after [.hintFound name] []

def addConstructorHints {ε : Type} (source : Source) (cls : Node)
    (hints : OrderedMap String Node) : Report ε (OrderedMap String Node) :=
  addAssignments hints (constructorAssignments source cls)

end ReactiveProps.Property
