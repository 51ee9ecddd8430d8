import ReactiveProps.SyntaxTree.Source

/-!
# Types read off expressions

The widened type of a literal expression as text. `infer` also lists the kinds of the expressions
whose type it could not tell, in the order in which it met them.
-/
namespace ReactiveProps.Typing

open SyntaxTree

def unknown : String := "unknown"

structure Inference where
  text : String
  unrecognized : List Kind
  deriving DecidableEq, Repr

/-- The type of a literal that shows by its kind alone. -/
def literalType? : Kind → Option String
  | .stringLiteral => some "string"
  | .templateString => some "string"
  | .trueLiteral => some "boolean"
  | .falseLiteral => some "boolean"
  | .nullLiteral => some "null"
  | .undefinedLiteral => some "undefined"
  | .regex => some "RegExp"
  | .object => some "object"
  | .arrowFunction => some "Function"
  | .functionExpression => some "Function"
  | .functionWord => some "Function"
  | .classWord => some "Function"
  | _ => none

/-- The type of a unary operator's result. -/
def operatorType? : String → Option String
  | "!" => some "boolean"
  | "typeof" => some "string"
  | "-" => some "number"
  | "+" => some "number"
  | "~" => some "number"
  | "void" => some "undefined"
  | _ => none

/-- The type of an array with elements of the given types. -/
def arrayType : List String → String
  | [] => "any[]"
  | type :: rest => if rest.all (· == type) then type ++ "[]" else unknown ++ "[]"

mutual

def infer (source : Source) : Node → Inference
  | ⟨id, kind, named, field, span, children⟩ =>
    let node : Node := ⟨id, kind, named, field, span, children⟩
    match literalType? kind with
    | some type => ⟨type, []⟩
    | none =>
      match kind with
      | .number => ⟨if (source.text node).endsWith "n" then "bigint" else "number", []⟩
      | .parenthesized => (inferFirst source children).getD ⟨unknown, []⟩
      | .array =>
        let elements := inferItems source children
        ⟨arrayType (elements.map (·.text)), elements.flatMap (·.unrecognized)⟩
      | .newExpression =>
        ⟨((node.child? .constructor).map source.text).getD unknown, []⟩
      | .asExpression =>
        match node.namedChildren with
        | [_, target] => ⟨source.text target, []⟩
        | _ => (inferFirst source children).getD ⟨unknown, []⟩
      | .satisfiesExpression => (inferFirst source children).getD ⟨unknown, []⟩
      | .unaryExpression =>
        match (node.child? .operator).bind fun operator => operatorType? (source.text operator) with
        | some type => ⟨type, []⟩
        | none => ⟨unknown, [kind]⟩
      | _ => ⟨unknown, [kind]⟩

/-- The inference for the first named node, a comment included. -/
def inferFirst (source : Source) : List Node → Option Inference
  | [] => none
  | node :: rest => if node.named then some (infer source node) else inferFirst source rest

def inferItems (source : Source) : List Node → List Inference
  | [] => []
  | node :: rest =>
    if node.isItem then infer source node :: inferItems source rest
    else inferItems source rest

end

theorem inferFirst_eq (source : Source) (nodes : List Node) :
    inferFirst source nodes = (nodes.find? (·.named)).map (infer source) := by
  induction nodes with
  | nil => simp [inferFirst]
  | cons node rest ih => by_cases h : node.named <;> simp [inferFirst, h, ih]

theorem inferItems_eq (source : Source) (nodes : List Node) :
    inferItems source nodes = (nodes.filter Node.isItem).map (infer source) := by
  induction nodes with
  | nil => simp [inferItems]
  | cons node rest ih => by_cases h : node.isItem <;> simp [inferItems, h, ih]

/-- The type of a node, from its children by name. -/
theorem infer_eq (source : Source) (node : Node) :
    infer source node =
      let operand := (node.namedChildren.head?.map (infer source)).getD ⟨unknown, []⟩
      match literalType? node.kind with
      | some type => ⟨type, []⟩
      | none =>
        match node.kind with
        | .number => ⟨if (source.text node).endsWith "n" then "bigint" else "number", []⟩
        | .parenthesized => operand
        | .array =>
          let elements := node.items.map (infer source)
          ⟨arrayType (elements.map (·.text)), elements.flatMap (·.unrecognized)⟩
        | .newExpression =>
          ⟨((node.child? .constructor).map source.text).getD unknown, []⟩
        | .asExpression =>
          match node.namedChildren with
          | [_, target] => ⟨source.text target, []⟩
          | _ => operand
        | .satisfiesExpression => operand
        | .unaryExpression =>
          match (node.child? .operator).bind fun operator =>
              operatorType? (source.text operator) with
          | some type => ⟨type, []⟩
          | none => ⟨unknown, [node.kind]⟩
        | kind => ⟨unknown, [kind]⟩ := by
  obtain ⟨id, kind, named, field, span, children⟩ := node
  have first : inferFirst source children =
      (children.filter (·.named)).head?.map (infer source) := by
    rw [inferFirst_eq, List.head?_filter]
  conv => lhs; unfold infer
  rw [first, inferItems_eq]
  cases literalType? kind with
  | some type => rfl
  | none => cases kind <;> rfl

end ReactiveProps.Typing
