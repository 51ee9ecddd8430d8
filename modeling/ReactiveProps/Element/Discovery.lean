import ReactiveProps.Property.Decorator

/-!
# Element classes and their tags

Which classes of a module are elements, what they are called and which tag they are registered
under.
-/
namespace ReactiveProps.Element

open SyntaxTree Property

/-- The class's own name, or that of the variable it is assigned to. -/
def className? (source : Source) (cls : Site) : Option String :=
  match cls.node.child? .name with
  | some name => some (source.text name)
  | none =>
    (cls.parent.filter (·.kind == .variableDeclarator)).bind fun declarator =>
      ((declarator.child? .name).filter (·.kind == .identifier)).map source.text

/-- All class declarations and class expressions at a site or below it, in preorder. -/
def classesAt (site : Site) : List Site :=
  site.walk.filter fun found => found.node.named && found.node.kind.isClass

def heritage? (cls : Node) : Option Node :=
  cls.namedChildren.find? (·.kind == .classHeritage)

/-- The part of a heritage that names base classes: its extends clause, or all of it. -/
def baseClause (heritage : Node) : Node :=
  (heritage.namedChildren.find? (·.kind == .extendsClause)).getD heritage

/-- Whether one of the names stands anywhere in a subtree. -/
def mentions (source : Source) (names : List String) (node : Node) : Bool :=
  node.walk.any fun found => found.kind.isName && source.text found ∈ names

/-- Whether a class extends one of the base classes, by itself, through a namespace or through a
mixin. -/
def isElement (source : Source) (baseClasses : List String) (cls : Node) : Bool :=
  (heritage? cls).any fun heritage => mentions source baseClasses (baseClause heritage)

/-- Whether a class is an element under the base classes of the settings. Those that cannot be used
are an error, but only for a class with a heritage. -/
def isElementUnder (settings : Settings) (source : Source) (cls : Node) : Except String Bool :=
  match settings.baseClasses with
  | .ok names => .ok (isElement source names cls)
  | .error message => if (heritage? cls).isSome then .error message else .ok false

def definers : List String := ["customElements.define", "window.customElements.define"]

/-- The class name and the tag of a call that registers an element. -/
def definition? (source : Source) (call : Node) : Option (String × String) :=
  if call.kind = .callExpression ∧
      (call.child? .function).any (fun callee => source.text callee ∈ definers) then
    match call.callArguments with
    | tag :: cls :: _ =>
      if tag.kind = .stringLiteral ∧ cls.kind = .identifier then
        some (source.text cls, source.unquoted tag)
      else none
    | _ => none
  else none

/-- The registrations in a subtree, in preorder. -/
def registrations (source : Source) (root : Node) : List (String × String) :=
  root.walk.filterMap (definition? source)

theorem registrations_eq (source : Source) (root : Node) :
    registrations source root = root.preorder.filterMap (definition? source) := by
  rw [registrations, Node.walk_eq_preorder]

/-- Tags by class name, the last registration of each name. -/
def definitions (source : Source) (root : Node) : OrderedMap String String :=
  .ofPairs (registrations source root)

/-- The tag that a decorator gives to a class, else the one registered for its name. -/
def tag? (settings : Settings) (source : Source) (definitions : OrderedMap String String)
    (cls : Site) : Option String :=
  (decoratedTag? settings source cls).or (definitions.get? ((className? source cls).getD ""))

end ReactiveProps.Element
