/-!
# Parts of nodes

A question about a node that is not there fails at the part of the node that it looks at first. Some
questions look at no part then and have an answer.
-/
namespace ReactiveProps.SyntaxTree

inductive Part
  | text
  | type
  | children
  | namedChildren
  | field
  | named
  | firstPosition
  | firstByte
  deriving DecidableEq, Repr

namespace Part

/-- The name of a part in messages. -/
def name : Part → String
  | text => "text"
  | type => "type"
  | children => "children"
  | namedChildren => "named_children"
  | field => "child_by_field_name"
  | named => "is_named"
  | firstPosition => "start_point"
  | firstByte => "start_byte"

/-- What there is to say when the part is asked of no node. -/
def missingMessage (part : Part) : String :=
  "'NoneType' object has no attribute '" ++ part.name ++ "'"

end Part

/-- What is asked of a node, and of no node too. -/
inductive Question
  | text
  | textIn
  | unquotedText
  | isIdentifier
  | isPlainName
  | isObject
  | isString
  | isTrue
  | isFalse
  | isUndefined
  | isStatic
  | isGetter
  | isConstructor
  | isElement
  | memberKind
  | items
  | walk
  | classMembers
  | memberDecorators
  | classDecorators
  | propertyDecorator
  | propertyOptions
  | decoratorExpression
  | callArguments
  | thisAssignment
  | objectValue
  | staticObject
  | staticEntries
  | constructor
  | constructorHints
  | classification
  | properties
  | className
  | classDeclarations
  | definitions
  | decoratedTag
  | tag
  | resolvedType
  | inferredType
  | annotationText
  | range
  deriving DecidableEq, Repr

/-- The answer to a question about no node. -/
inductive EmptyAnswer
  | no
  | nothing
  | emptyList
  /-- There is none, as the question looks at a part of the node. -/
  | fails (part : Part)
  deriving DecidableEq, Repr

/-- A question is answered about no node if it looks at nothing before it knows that there is one. -/
def Question.ofNothing : Question → EmptyAnswer
  | isIdentifier | isPlainName | isObject | isString | isTrue | isFalse | isUndefined => .no
  | objectValue | annotationText => .nothing
  | items | staticEntries => .emptyList
  | text | unquotedText => .fails .text
  | isGetter | isConstructor | memberKind | thisAssignment | staticObject | definitions
  | resolvedType | inferredType => .fails .type
  | isStatic | memberDecorators | classDecorators | walk | propertyDecorator | decoratedTag | tag =>
    .fails .children
  | decoratorExpression | propertyOptions | isElement => .fails .namedChildren
  | classMembers | callArguments | constructor | className | constructorHints | classification
  | properties => .fails .field
  | classDeclarations => .fails .named
  | range => .fails .firstPosition
  | textIn => .fails .firstByte

end ReactiveProps.SyntaxTree
