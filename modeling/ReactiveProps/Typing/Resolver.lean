import ReactiveProps.Event
import ReactiveProps.OrderedMap
import ReactiveProps.Typing.Inference

/-!
# Type resolvers

A resolver answers for a node with a type descriptor or fails. `syntactic` takes the annotation of
a declaration or infers a type from its initializer; the others are made from fixed answers.
-/
namespace ReactiveProps.Typing

open SyntaxTree

structure TypeDescriptor where
  text : String
  /-- Whether the type was read off an expression and not off an annotation. -/
  inferred : Bool
  /-- The declaration or expression that has the type. -/
  node : Option Nat
  deriving DecidableEq, Repr

inductive ResolverFailure
  /-- The resolver broke down for a reason of its own. -/
  | crash (reason : String)
  /-- An error that ends the analysis whatever the strictness. -/
  | abort (message : String)
  /-- A finding, about a node if it names one, with values of its own by name. -/
  | report (place : Option Node) (message : String) (details : OrderedMap String Value)

structure Resolution where
  events : List Event
  outcome : Except ResolverFailure TypeDescriptor

abbrev Resolver := Source → Node → Resolution

/-- The text of an annotation clause; none if it holds nothing but comments. -/
def annotationText? (source : Source) (clause : Node) : Option String :=
  clause.items.head?.map source.text

/-- The annotation of a field or method. -/
def annotationOf? (source : Source) (node : Node) : Option String :=
  if node.kind.isField then (node.child? .type).bind (annotationText? source)
  else if node.kind = .methodDefinition then
    (node.child? .returnType).bind (annotationText? source)
  else none

/-- The inference for an expression, or for the initializer of a field; a method and a field
without initializer have no expression to infer from. -/
def inferenceOf (source : Source) (node : Node) : Inference :=
  if node.kind.isField then
    ((node.child? .value).map (infer source)).getD ⟨unknown, []⟩
  else if node.kind = .methodDefinition then ⟨unknown, []⟩
  else infer source node

def syntactic : Resolver := fun source node =>
  match annotationOf? source node with
  | some text => ⟨[], .ok ⟨text, false, some node.id⟩⟩
  | none =>
    let inference := inferenceOf source node
    ⟨inference.unrecognized.map .typeUnknown, .ok ⟨inference.text, true, some node.id⟩⟩

/-- What a resolver of one answer says. -/
inductive FixedAnswer
  | type (text : String)
  | crash (reason : String)
  | abort (message : String)
  | report (message : String)
  deriving DecidableEq, Repr

def FixedAnswer.resolver (answer : FixedAnswer) : Resolver := fun _ node =>
  match answer with
  | .type text => ⟨[], .ok ⟨text, false, some node.id⟩⟩
  | .crash reason => ⟨[], .error (.crash reason)⟩
  | .abort message => ⟨[], .error (.abort message)⟩
  | .report message => ⟨[], .error (.report (some node) message .empty)⟩

/-- Asks the resolver only for nodes of the given kinds, and `syntactic` for all others. -/
def Resolver.onKinds (resolver : Resolver) (kinds : List Kind) : Resolver := fun source node =>
  if node.kind ∈ kinds then resolver source node else syntactic source node

end ReactiveProps.Typing
