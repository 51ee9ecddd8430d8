import ReactiveProps.Proofs.CommentedTypes
import ReactiveProps.Typing.Evaluation

/-!
# Types of closed expressions

The type inferred for a closed expression is the type of its value, with one exception: what a minus
or a complement makes of a bigint is a bigint, and it is taken for a number.
-/
namespace ReactiveProps.Typing

open SyntaxTree Property

variable {source : Source} {node : Node} {insides : Insides} {value : RuntimeValue}

/-- The kinds of nodes of which no type is known although they stand in closed expressions. -/
def hidingKinds : List Kind := [.comment, .identifier, .other "generator_function"]

/-- A node of which no type is known stands where an expression is wrapped in parentheses. -/
def Hidden (node : Node) : Prop :=
  ∃ inner, Relation.ReflTransGen Wraps node inner ∧ inner.kind ∈ hidingKinds

theorem unknown_ne_text (type : ValueType) : unknown ≠ type.text := by
  cases type <;> decide

section Literals

theorem infer_of_literalType? {type : String} (known : literalType? node.kind = some type) :
    (infer source node).text = type := by
  rw [infer_eq, known]

theorem infer_number (kind : node.kind = .number) :
    (infer source node).text =
      if (source.text node).endsWith "n" then "bigint" else "number" := by
  rw [infer_eq, kind]
  rfl

theorem infer_of_hiding (kind : node.kind ∈ hidingKinds) : (infer source node).text = unknown := by
  simp only [hidingKinds, List.mem_cons, List.not_mem_nil, or_false] at kind
  rcases kind with kind | kind | kind
  · rw [infer_eq, kind]
    rfl
  · rw [infer_eq, kind]
    rfl
  · rw [infer_eq, kind]
    rfl

/-- The type of a literal is that of its value, if its kind is told apart. -/
theorem infer_of_written {literal : Literal} (written : literal.Written source node) :
    node.kind ∈ hidingKinds ∨ (infer source node).text = literal.type.text := by
  cases literal with
  | number =>
    right
    rw [infer_number written.1, written.2]
    rfl
  | bigint =>
    right
    rw [infer_number written.1, written.2]
    rfl
  | boolean =>
    right
    rcases List.mem_pair.mp written with kind | kind
    · exact infer_of_literalType? (congrArg literalType? kind)
    · exact infer_of_literalType? (congrArg literalType? kind)
  | undefined =>
    rcases (Bool.or_eq_true ..).mp written with keyword | name
    · exact .inr (infer_of_literalType? (congrArg literalType? (beq_iff_eq.mp keyword)))
    · have kind := beq_iff_eq.mp (Bool.and_eq_true_iff.mp name).1
      exact .inl (by simp [hidingKinds, kind])
  | function =>
    simp only [Literal.Written, List.mem_cons, List.not_mem_nil, or_false] at written
    rcases written with kind | kind | kind | kind
    · exact .inr (infer_of_literalType? (congrArg literalType? kind))
    · exact .inr (infer_of_literalType? (congrArg literalType? kind))
    · exact .inr (infer_of_literalType? (congrArg literalType? kind))
    · exact .inl (by simp [hidingKinds, kind])
  | string | template | null | regExp | object | classExpression =>
    exact .inr (infer_of_literalType? (congrArg literalType? written))

end Literals

section Operators

/-- The type of what an operator gives, if it is not known what it is applied to. -/
def Operator.resultType : Operator → ValueType
  | .not => .boolean
  | .typeOf => .string
  | .void => .undefined
  | _ => .number

theorem operatorType?_word (operator : Operator) :
    operatorType? operator.word = some operator.resultType.text := by
  cases operator <;> rfl

theorem infer_unary {word : Node} {operator : Operator} (kind : node.kind = .unaryExpression)
    (labelled : node.child? .operator = some word) (spelled : source.text word = operator.word) :
    (infer source node).text = operator.resultType.text := by
  rw [infer_eq, kind, labelled]
  simp only [literalType?, Option.bind_some, spelled, operatorType?_word]

/-- An operator gives a value of its result type, or keeps a bigint. -/
theorem type_of_apply {operator : Operator} {operand : RuntimeValue}
    (applied : operator.apply operand = some value) :
    value.type = operator.resultType ∨
      (operator = .minus ∨ operator = .complement) ∧ value = .bigint := by
  have ofNumeric (numeric : Numeric) :
      (RuntimeValue.ofNumeric numeric).type = .number ∨ RuntimeValue.ofNumeric numeric = .bigint := by
    cases numeric with
    | number => exact .inl rfl
    | bigint => exact .inr rfl
  cases operator with
  | not | typeOf | void =>
    cases applied
    exact .inl rfl
  | plus =>
    obtain ⟨-, same⟩ := Option.ite_none_right_eq_some.mp applied
    cases same
    exact .inl rfl
  | minus =>
    obtain ⟨numeric, -, rfl⟩ := Option.map_eq_some_iff.mp applied
    exact (ofNumeric numeric).imp id fun kept => ⟨.inl rfl, kept⟩
  | complement =>
    obtain ⟨numeric, -, rfl⟩ := Option.map_eq_some_iff.mp applied
    exact (ofNumeric numeric).imp id fun kept => ⟨.inr rfl, kept⟩

end Operators

section Parentheses

/-- A parenthesis wraps what stands in it, or a comment before that. -/
theorem wraps_of_alone {inner : Node} (kind : node.kind = .parenthesized)
    (alone : node.items = [inner]) :
    Wraps node inner ∨ ∃ comment, Wraps node comment ∧ comment.kind = .comment := by
  have wraps (first : Node) (leads : first ∈ node.namedChildren.head?) : Wraps node first :=
    .operand (by simp [kind]) leads
  have items : node.items = node.namedChildren.filter (·.kind != .comment) := by
    rw [Node.items, Node.namedChildren, List.filter_filter]
    exact List.filter_congr fun child _ => Bool.and_comm ..
  cases named : node.namedChildren with
  | nil =>
    rw [items, named] at alone
    cases alone
  | cons first rest =>
    have leads : first ∈ node.namedChildren.head? := by
      rw [named]
      rfl
    by_cases comment : first.kind = .comment
    · exact .inr ⟨first, wraps first leads, comment⟩
    · rw [items, named, List.filter_cons_of_pos (by simpa using comment)] at alone
      obtain ⟨rfl, -⟩ := List.cons.inj alone
      exact .inl (wraps first leads)

/-- What is hidden behind parentheses has no type. -/
theorem infer_of_hidden (hidden : Hidden node) : (infer source node).text = unknown := by
  obtain ⟨inner, reached, kind⟩ := hidden
  induction reached using Relation.ReflTransGen.head_induction_on with
  | refl => exact infer_of_hiding kind
  | head wraps _ ih => rw [infer_eq_of_wraps source wraps, ih]

end Parentheses

/-- The type inferred for a closed expression that has a value. -/
theorem infer_of_denotes {expr : ClosedExpression} (denotes : Denotes source node expr)
    (evaluates : expr.eval insides = some value) :
    Hidden node ∨ (infer source node).text =
      if expr.keepsNumeric ∧ value = .bigint then "number" else value.type.text := by
  induction denotes with
  | literal written =>
    rw [Literal.type_of_eval evaluates, ClosedExpression.keepsNumeric, if_neg (by simp)]
    exact (infer_of_written written).imp (fun kind => ⟨_, .refl, kind⟩) id
  | group kind alone _ ih =>
    rcases wraps_of_alone kind alone with wraps | ⟨comment, wraps, isComment⟩
    · rcases ih evaluates with ⟨inner, reached, hidden⟩ | same
      · exact .inl ⟨inner, .head wraps reached, hidden⟩
      · exact .inr ((congrArg Inference.text (infer_eq_of_wraps source wraps)).trans same)
    · exact .inl ⟨comment, .single wraps, by simp [hidingKinds, isComment]⟩
  | @unary _ _ _ operator _ kind labelled spelled _ _ _ =>
    obtain ⟨operand, -, applied⟩ := Option.bind_eq_some_iff.mp evaluates
    rw [infer_unary kind labelled spelled]
    right
    rcases type_of_apply applied with same | ⟨keeps | keeps, rfl⟩
    · rw [if_neg, same]
      rintro ⟨-, rfl⟩
      -- no operator has bigints only
      cases operator <;> cases same
    · rw [keeps]
      rfl
    · rw [keeps]
      rfl

/-- The type inferred for a closed expression that has a value is the type of the value, apart from
a bigint that a minus or a complement gives, which is taken for a number. No type is inferred if a
comment leads in a parenthesis, or if the kind of the literal is not told apart. -/
theorem infer_sound_unless_negated_bigint (source : Source) (node : Node) (expr : ClosedExpression)
    (insides : Insides) (value : RuntimeValue) (denotes : Denotes source node expr)
    (evaluates : expr.eval insides = some value) :
    ((infer source node).text = unknown ↔ Hidden node) ∧
      ((infer source node).text = unknown ∨
        (infer source node).text =
          if expr.keepsNumeric ∧ value = .bigint then "number" else value.type.text) := by
  have typed := infer_of_denotes denotes evaluates
  refine ⟨⟨fun same => ?_, infer_of_hidden⟩, typed.imp infer_of_hidden id⟩
  refine typed.resolve_right fun known => ?_
  rw [same] at known
  split at known
  · exact absurd known (by decide)
  · exact unknown_ne_text value.type known

def negatedTypeSource : Source := .ofString "-(typeof -1n)"

def negatedType : Node := (Node.ofRows? [
  namedRow .unaryExpression 2 0 13 none,
  ⟨.other "-", false, some .operator, ⟨0, 1⟩, 0⟩,
  namedRow .parenthesized 3 1 13 none,
  ⟨.other "(", false, none, ⟨1, 2⟩, 0⟩,
  namedRow .unaryExpression 2 2 12 none,
  ⟨.other "typeof", false, some .operator, ⟨2, 8⟩, 0⟩,
  namedRow .unaryExpression 2 9 12 none,
  ⟨.other "-", false, some .operator, ⟨9, 10⟩, 0⟩,
  namedRow .number 0 10 12 none,
  ⟨.other ")", false, none, ⟨12, 13⟩, 0⟩]).getD default

/-- The bigint is turned into a text and that into a number, which the type shows. -/
theorem infer_sound_unless_negated_bigint_negatedType :
    let expr : ClosedExpression :=
      .unary .minus (.group (.unary .typeOf (.unary .minus (.literal .bigint))))
    Denotes negatedTypeSource negatedType expr ∧ expr.eval .throws = some .number ∧
      (infer negatedTypeSource negatedType).text = "number" ∧ ¬ Hidden negatedType := by
  intro expr
  have denotes : Denotes negatedTypeSource negatedType expr := by
    refine .unary rfl rfl (by decide +kernel) rfl (.group rfl rfl ?_)
    refine .unary rfl rfl (by decide +kernel) rfl (.unary rfl rfl (by decide +kernel) rfl ?_)
    exact .literal ⟨rfl, by decide +kernel⟩
  have text : (infer negatedTypeSource negatedType).text = "number" := by decide +kernel
  obtain ⟨hidden, -⟩ := infer_sound_unless_negated_bigint negatedTypeSource negatedType expr .throws
    .number denotes rfl
  refine ⟨denotes, rfl, text, fun isHidden => ?_⟩
  rw [hidden.mpr isHidden] at text
  exact absurd text (by decide)

def negatedBigintSource : Source := .ofString "-10n"

def negatedBigint : Node := (Node.ofRows? [
  namedRow .unaryExpression 2 0 4 none,
  ⟨.other "-", false, some .operator, ⟨0, 1⟩, 0⟩,
  namedRow .number 0 1 4 none]).getD default

/-- A negated bigint is a bigint, and it is taken for a number. -/
theorem negated_bigint_typed_number :
    let expr : ClosedExpression := .unary .minus (.literal .bigint)
    Denotes negatedBigintSource negatedBigint expr ∧ expr.eval .throws = some .bigint ∧
      (infer negatedBigintSource negatedBigint).text = "number" ∧
        (infer negatedBigintSource negatedBigint).text ∉ [unknown, ValueType.bigint.text] := by
  refine ⟨?_, rfl, by decide +kernel, by decide +kernel⟩
  exact .unary rfl rfl (by decide +kernel) rfl (.literal ⟨rfl, by decide +kernel⟩)

end ReactiveProps.Typing
