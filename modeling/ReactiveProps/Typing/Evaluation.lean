import ReactiveProps.SyntaxTree.Shape

/-!
# Values of closed expressions

An expression without names evaluates to a value or throws. Only the type of the value is kept, and
what the value counts as in arithmetic. `Denotes` says which syntax tree is which expression.
-/
namespace ReactiveProps.Typing

open SyntaxTree

inductive ValueType
  | number
  | bigint
  | string
  | boolean
  | undefined
  | null
  | regExp
  | object
  | function
  deriving DecidableEq, Repr

def ValueType.text : ValueType → String
  | number => "number"
  | bigint => "bigint"
  | string => "string"
  | boolean => "boolean"
  | undefined => "undefined"
  | null => "null"
  | regExp => "RegExp"
  | object => "object"
  | function => "Function"

/-- The two kinds of numbers, which arithmetic does not mix. -/
inductive Numeric
  | number
  | bigint
  deriving DecidableEq, Repr

/-- A value. Objects and functions may say themselves which number they are turned into; none if
turning them into a number throws. -/
inductive RuntimeValue
  | number
  | bigint
  | string
  | boolean
  | undefined
  | null
  | regExp
  | object (numeric : Option Numeric)
  | function (numeric : Option Numeric)
  deriving DecidableEq, Repr

namespace RuntimeValue

def type : RuntimeValue → ValueType
  | number => .number
  | bigint => .bigint
  | string => .string
  | boolean => .boolean
  | undefined => .undefined
  | null => .null
  | regExp => .regExp
  | object _ => .object
  | function _ => .function

/-- What a value is turned into where a number is needed. -/
def numeric? : RuntimeValue → Option Numeric
  | bigint => some .bigint
  | object numeric => numeric
  | function numeric => numeric
  | _ => some .number

def ofNumeric : Numeric → RuntimeValue
  | .number => number
  | .bigint => bigint

end RuntimeValue

inductive Operator
  | not
  | minus
  | plus
  | complement
  | typeOf
  | void
  deriving DecidableEq, Repr

namespace Operator

def word : Operator → String
  | not => "!"
  | minus => "-"
  | plus => "+"
  | complement => "~"
  | typeOf => "typeof"
  | void => "void"

/-- None if the operator throws: a bigint has no plus sign. -/
def apply : Operator → RuntimeValue → Option RuntimeValue
  | not, _ => some .boolean
  | typeOf, _ => some .string
  | void, _ => some .undefined
  | plus, value => if value.numeric? = some .number then some .number else none
  | minus, value => value.numeric?.map .ofNumeric
  | complement, value => value.numeric?.map .ofNumeric

end Operator

inductive Literal
  | number
  | bigint
  | string
  | template
  | boolean
  | null
  | undefined
  | regExp
  | object
  | function
  | classExpression
  deriving DecidableEq, Repr

/-- How the code inside a literal ends: in the entries of an object, the substitutions of a template
or the static parts of a class. It decides what an object or a class is turned into where a number
is needed. -/
inductive Insides
  | throws
  | completes (numeric : Option Numeric)
  deriving DecidableEq, Repr

namespace Literal

def eval (insides : Insides) : Literal → Option RuntimeValue
  | number => some .number
  | bigint => some .bigint
  | string => some .string
  | boolean => some .boolean
  | null => some .null
  | undefined => some .undefined
  | regExp => some .regExp
  | function => some (.function (some .number))
  | template =>
    match insides with
    | .throws => none
    | .completes _ => some .string
  | object =>
    match insides with
    | .throws => none
    | .completes numeric => some (.object numeric)
  | classExpression =>
    match insides with
    | .throws => none
    | .completes numeric => some (.function numeric)

/-- The type of the value of a literal. -/
def type : Literal → ValueType
  | number => .number
  | bigint => .bigint
  | string => .string
  | template => .string
  | boolean => .boolean
  | null => .null
  | undefined => .undefined
  | regExp => .regExp
  | object => .object
  | function => .function
  | classExpression => .function

theorem type_of_eval {insides : Insides} {literal : Literal} {value : RuntimeValue}
    (evaluates : literal.eval insides = some value) : value.type = literal.type := by
  cases literal <;> cases insides <;> cases evaluates <;> rfl

/-- How a literal is written. A bigint is a number with the suffix `n`. -/
def Written (source : Source) (node : Node) : Literal → Prop
  | number => node.kind = .number ∧ (source.text node).endsWith "n" = false
  | bigint => node.kind = .number ∧ (source.text node).endsWith "n" = true
  | string => node.kind = .stringLiteral
  | template => node.kind = .templateString
  | boolean => node.kind ∈ [.trueLiteral, .falseLiteral]
  | null => node.kind = .nullLiteral
  | undefined => node.isUndefined source = true
  | regExp => node.kind = .regex
  | object => node.kind = .object
  | function =>
    node.kind ∈ [.arrowFunction, .functionExpression, .functionWord, .other "generator_function"]
  | classExpression => node.kind = .classWord

end Literal

inductive ClosedExpression
  | literal (literal : Literal)
  | group (inner : ClosedExpression)
  | unary (operator : Operator) (operand : ClosedExpression)
  deriving DecidableEq, Repr

namespace ClosedExpression

/-- None if the evaluation throws. A closed expression has one literal, so there is one way in which
the code inside it ends. -/
def eval (insides : Insides) : ClosedExpression → Option RuntimeValue
  | .literal leaf => leaf.eval insides
  | .group inner => inner.eval insides
  | .unary operator operand => (operand.eval insides).bind operator.apply

/-- Whether the operator that is applied last keeps a bigint a bigint. -/
def keepsNumeric : ClosedExpression → Bool
  | literal _ => false
  | group inner => inner.keepsNumeric
  | unary operator _ => operator = .minus || operator = .complement

end ClosedExpression

/-- The expression that a syntax tree stands for. -/
inductive Denotes (source : Source) : Node → ClosedExpression → Prop
  | literal {node : Node} {literal : Literal} (written : literal.Written source node) :
      Denotes source node (.literal literal)
  | group {node inner : Node} {expr : ClosedExpression} (kind : node.kind = .parenthesized)
      (alone : node.items = [inner]) (denotes : Denotes source inner expr) :
      Denotes source node (.group expr)
  | unary {node word operand : Node} {operator : Operator} {expr : ClosedExpression}
      (kind : node.kind = .unaryExpression) (labelled : node.child? .operator = some word)
      (spelled : source.text word = operator.word) (alone : node.items = [operand])
      (denotes : Denotes source operand expr) : Denotes source node (.unary operator expr)

end ReactiveProps.Typing
