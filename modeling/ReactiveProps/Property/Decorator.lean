import ReactiveProps.Report
import ReactiveProps.Settings
import ReactiveProps.SyntaxTree.Shape

/-!
# Recognized decorators

A decorator is recognized by its configured name, written bare or as a call.
-/
namespace ReactiveProps.Property

open SyntaxTree

inductive DecoratorUse
  | bare
  | call (node : Node)

def isNamed (source : Source) (name : Option String) (node : Node) : Bool :=
  node.kind == .identifier && name == some (source.text node)

/-- How a decorator uses a name, if it does. -/
def decoratorUse? (source : Source) (name : Option String) (decorator : Node) :
    Option DecoratorUse :=
  decorator.decoratorExpression?.bind fun expression =>
    if isNamed source name expression then some .bare
    else if expression.kind = .callExpression ∧
        (expression.child? .function).any (isNamed source name) then
      some (.call expression)
    else none

/-- The arguments of a decorator that calls the name; none if it is bare or uses another name. -/
def decoratorArguments (source : Source) (name : Option String) (decorator : Node) :
    List Node :=
  match decoratorUse? source name decorator with
  | some (.call call) => call.callArguments
  | _ => []

/-- The first decorator that makes a member a property. -/
def propertyDecorator? (settings : Settings) (source : Source) (member : Site) : Option Node :=
  member.memberDecorators.find? fun decorator =>
    (decoratorUse? source settings.propertyDecorator decorator).isSome

/-- The options object of a property decorator. Any other first argument is ignored and logged. -/
def propertyOptions {ε : Type} (settings : Settings) (source : Source) (decorator : Node) :
    Report ε (Option Node) :=
  match decoratorArguments source settings.propertyDecorator decorator with
  | [] => .ok none
  | argument :: _ =>
    if argument.kind = .object then .ok (some argument)
    else ⟨[.optionsIgnored (source.text argument)], [], .ok none⟩

/-- The tag that an element decorator gives: its first argument, if that is a string literal. -/
def decoratorTag? (settings : Settings) (source : Source) (decorator : Node) : Option String :=
  match decoratorArguments source settings.elementDecorator decorator with
  | [] => none
  | argument :: _ =>
    if argument.kind = .stringLiteral then some (source.unquoted argument) else none

/-- The tag given by the first element decorator of a class that gives one. -/
def decoratedTag? (settings : Settings) (source : Source) (cls : Site) : Option String :=
  cls.classDecorators.findSome? (decoratorTag? settings source)

end ReactiveProps.Property
