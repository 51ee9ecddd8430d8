import ReactiveProps.SyntaxTree.Site
import ReactiveProps.SyntaxTree.Source

/-!
# Shapes of classes, members and statements

What a node of a class means for its properties: which members it has, which decorators belong to
a member, and which statements assign to a field.
-/
namespace ReactiveProps.SyntaxTree

inductive MemberKind
  | field
  | getter
  deriving DecidableEq, Repr

def MemberKind.word : MemberKind → String
  | field => "field"
  | getter => "getter"

namespace Node

/-- The keyword or the bare name. -/
def isUndefined (source : Source) (node : Node) : Bool :=
  node.kind == .undefinedLiteral || (node.kind == .identifier && source.text node == "undefined")

def isStatic (member : Node) : Bool :=
  member.children.any fun child => child.kind == .staticWord || child.kind == .staticGetWord

def isGetter (member : Node) : Bool :=
  member.kind == .methodDefinition &&
    member.children.any fun child => child.kind == .getWord || child.kind == .staticGetWord

/-- What a member that may declare a property is; none for any other member. -/
def memberKind? (member : Node) : Option MemberKind :=
  if member.kind.isField then some .field
  else if member.isGetter then some .getter
  else none

/-- The name node of a member, if it is a plain name. -/
def plainName? (member : Node) : Option Node :=
  (member.child? .name).filter (·.kind.isPlainName)

def isConstructor (source : Source) (member : Node) : Bool :=
  member.kind == .methodDefinition &&
    (member.plainName?).any fun name => source.text name == "constructor"

/-- What follows the at sign of a decorator. -/
def decoratorExpression? (decorator : Node) : Option Node :=
  decorator.items.head?

def callArguments (call : Node) : List Node :=
  call.itemsOf .arguments

/-- The field and the right-hand side of a statement that assigns to a field of `this`. -/
def thisAssignment? (statement : Node) : Option (Node × Node) :=
  if statement.kind = .expressionStatement then
    match statement.items with
    | [assignment] =>
      if assignment.kind = .assignmentExpression then
        match assignment.child? .left, assignment.child? .right with
        | some left, some right =>
          if left.kind = .memberExpression ∧
              (left.child? .object).any (·.kind == .thisWord) then
            ((left.child? .property).filter (·.kind.isPlainName)).map (·, right)
          else none
        | _, _ => none
      else none
    | _ => none
  else none

end Node

namespace Site

/-- The members of a class body in source order. -/
def classMembers (cls : Site) : List Site :=
  match cls.child? .body with
  | some body => body.items.filter (·.node.kind != .decorator)
  | none => []

/-- The decorators right before a node among its named siblings, comments aside, in source
order. -/
def precedingDecorators (site : Site) : List Node :=
  let run := site.earlierNamed.takeWhile fun sibling =>
    sibling.kind == .decorator || sibling.kind == .comment
  (run.filter (·.kind == .decorator)).reverse

/-- The decorators of a member. Those of a field are its children; those of a method or accessor
stand before it in the class body. -/
def memberDecorators (member : Site) : List Node :=
  if member.node.kind = .methodDefinition then
    member.precedingDecorators ++ member.node.decorators
  else
    member.node.decorators

/-- The decorators of a class, those before `export` first. -/
def classDecorators (cls : Site) : List Node :=
  match cls.parent with
  | some parent =>
    if parent.kind = .exportStatement then parent.decorators ++ cls.node.decorators
    else cls.node.decorators
  | none => cls.node.decorators

end Site

/-- The members of a class, without their surroundings. -/
def Node.classMembers (cls : Node) : List Site :=
  (Site.root cls).classMembers

end ReactiveProps.SyntaxTree
