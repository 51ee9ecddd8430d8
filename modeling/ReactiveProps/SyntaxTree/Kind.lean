/-!
# Node kinds and field labels

A syntax node carries the tag its grammar gives it. `Kind` names the tags that the analysis looks
at; every other tag is kept as it is. `Kind.tag_ofTag` says that no tag is lost.
-/
namespace ReactiveProps.SyntaxTree

inductive Kind
  | identifier
  | propertyIdentifier
  | typeIdentifier
  | comment
  | decorator
  | stringLiteral
  | templateString
  | trueLiteral
  | falseLiteral
  | nullLiteral
  | undefinedLiteral
  | regex
  | number
  | object
  | array
  | pair
  | arrowFunction
  | functionExpression
  /-- Also the keyword token, which has the same tag. -/
  | functionWord
  /-- A class expression; also the keyword token, which has the same tag. -/
  | classWord
  | parenthesized
  | newExpression
  | asExpression
  | satisfiesExpression
  | unaryExpression
  | callExpression
  | memberExpression
  | assignmentExpression
  | expressionStatement
  | returnStatement
  | exportStatement
  | variableDeclarator
  | publicFieldDefinition
  | fieldDefinition
  | methodDefinition
  | classDeclaration
  | abstractClassDeclaration
  | classHeritage
  | extendsClause
  | thisWord
  | staticWord
  | getWord
  | staticGetWord
  | other (tag : String)
  deriving DecidableEq, Repr

namespace Kind

def tag : Kind → String
  | identifier => "identifier"
  | propertyIdentifier => "property_identifier"
  | typeIdentifier => "type_identifier"
  | comment => "comment"
  | decorator => "decorator"
  | stringLiteral => "string"
  | templateString => "template_string"
  | trueLiteral => "true"
  | falseLiteral => "false"
  | nullLiteral => "null"
  | undefinedLiteral => "undefined"
  | regex => "regex"
  | number => "number"
  | object => "object"
  | array => "array"
  | pair => "pair"
  | arrowFunction => "arrow_function"
  | functionExpression => "function_expression"
  | functionWord => "function"
  | classWord => "class"
  | parenthesized => "parenthesized_expression"
  | newExpression => "new_expression"
  | asExpression => "as_expression"
  | satisfiesExpression => "satisfies_expression"
  | unaryExpression => "unary_expression"
  | callExpression => "call_expression"
  | memberExpression => "member_expression"
  | assignmentExpression => "assignment_expression"
  | expressionStatement => "expression_statement"
  | returnStatement => "return_statement"
  | exportStatement => "export_statement"
  | variableDeclarator => "variable_declarator"
  | publicFieldDefinition => "public_field_definition"
  | fieldDefinition => "field_definition"
  | methodDefinition => "method_definition"
  | classDeclaration => "class_declaration"
  | abstractClassDeclaration => "abstract_class_declaration"
  | classHeritage => "class_heritage"
  | extendsClause => "extends_clause"
  | thisWord => "this"
  | staticWord => "static"
  | getWord => "get"
  | staticGetWord => "static get"
  | other tag => tag

/-- The kinds that have a constructor of their own. -/
def recognized : List Kind :=
  [identifier, propertyIdentifier, typeIdentifier, comment, decorator, stringLiteral,
    templateString, trueLiteral, falseLiteral, nullLiteral, undefinedLiteral, regex, number,
    object, array, pair, arrowFunction, functionExpression, functionWord, classWord,
    parenthesized, newExpression, asExpression, satisfiesExpression, unaryExpression,
    callExpression, memberExpression, assignmentExpression, expressionStatement,
    returnStatement, exportStatement, variableDeclarator, publicFieldDefinition,
    fieldDefinition, methodDefinition, classDeclaration, abstractClassDeclaration,
    classHeritage, extendsClause, thisWord, staticWord, getWord, staticGetWord]

def ofTag (tag : String) : Kind :=
  (recognized.find? fun kind => kind.tag == tag).getD (other tag)

theorem tag_ofTag (tag : String) : (ofTag tag).tag = tag := by
  unfold ofTag
  cases h : recognized.find? fun kind => kind.tag == tag with
  | none => rfl
  | some kind => simpa using List.find?_some h

/-- A field of a class. -/
def isField (kind : Kind) : Bool :=
  kind == publicFieldDefinition || kind == fieldDefinition

def isClass (kind : Kind) : Bool :=
  kind == classDeclaration || kind == abstractClassDeclaration || kind == classWord

/-- A plain name of a member or key: not computed, private or quoted. -/
def isPlainName (kind : Kind) : Bool :=
  kind == propertyIdentifier || kind == identifier

/-- A name that can stand in an expression or a type. -/
def isName (kind : Kind) : Bool :=
  kind == identifier || kind == propertyIdentifier || kind == typeIdentifier

end Kind

/-- The label of a child inside its parent. -/
inductive Field
  | name
  | body
  | arguments
  | left
  | right
  | object
  | property
  | function
  | key
  | value
  | type
  | returnType
  | constructor
  | operator
  deriving DecidableEq, Repr

namespace Field

def label : Field → String
  | name => "name"
  | body => "body"
  | arguments => "arguments"
  | left => "left"
  | right => "right"
  | object => "object"
  | property => "property"
  | function => "function"
  | key => "key"
  | value => "value"
  | type => "type"
  | returnType => "return_type"
  | constructor => "constructor"
  | operator => "operator"

def all : List Field :=
  [name, body, arguments, left, right, object, property, function, key, value, type,
    returnType, constructor, operator]

def ofLabel? (label : String) : Option Field :=
  all.find? fun field => field.label == label

theorem ofLabel?_label (field : Field) : ofLabel? field.label = some field := by
  cases field <;> decide

end Field

end ReactiveProps.SyntaxTree
