import ReactiveProps.Proofs.Comments

/-!
# Types of commented expressions

The elements of an array and the operator of a unary expression are found past any comment. The
operand of a parenthesized or `satisfies` expression is not: it is the first child, whatever that
is. Nor is the type of a cast, which must be the second of two children. So the type of an
expression is that of the same expression without comments, unless a comment stands in one of these
places.
-/
namespace ReactiveProps.Typing

open SyntaxTree Property

instance (gap : Node → Prop) [DecidablePred gap] (node : Node) : Decidable (Obstructed gap node) :=
  inferInstanceAs (Decidable (_ ∧ _ ∨ _ ∧ _))

/-- A comment stands where the inference looks for the operand of a node, or in a cast. -/
abbrev Obscured (node : Node) : Prop := Obstructed (fun child => child.kind = .comment) node

/-- All that an inference looks at lies inside the expression. -/
theorem mem_preorder_of_consulted {expr node : Node}
    (reached : Relation.ReflTransGen Consults expr node) : node ∈ expr.preorder := by
  induction reached with
  | refl => exact Node.mem_preorder_self expr
  | tail _ consults ih => exact Node.mem_preorder_of_child consults.mem_children expr ih

theorem infer_eq_of_wraps (source : Source) {node operand : Node} (wraps : Wraps node operand) :
    infer source node = infer source operand := by
  rw [infer_eq]
  cases wraps with
  | operand kind first =>
    rw [List.mem_cons, List.mem_singleton] at kind
    rcases kind with kind | kind
    · rw [kind, Option.mem_def.mp first]
      rfl
    · rw [kind, Option.mem_def.mp first]
      rfl
  | cast kind targetless first =>
    rw [kind, Option.mem_def.mp first]
    dsimp only [literalType?, Option.map_some, Option.getD_some]
    split
    · next target listed => exact absurd (congrArg List.length listed) targetless
    · rfl

/-- An expression that wraps a comment, through any number of other expressions, has no type that
could be read. -/
theorem infer_eq_unknown_of_wraps_comment (source : Source) {expr comment : Node}
    (reached : Relation.ReflTransGen Wraps expr comment) (kind : comment.kind = .comment) :
    infer source expr = ⟨unknown, [.comment]⟩ := by
  induction reached using Relation.ReflTransGen.head_induction_on with
  | refl =>
    rw [infer_eq, kind]
    rfl
  | head wraps _ ih => rw [infer_eq_of_wraps source wraps, ih]

theorem infer_withoutComments_of_clear (source : Source) (number : Nat → Nat) {expr : Node}
    (loose : expr.LooseComments)
    (clear : ∀ node, Relation.ReflTransGen Consults expr node → ¬ Obscured node) :
    infer source (expr.withoutComments number) = infer source expr := by
  refine (infer_eq_of_unobstructed (P := remaining source number loose)
    (Node.remains_root number loose) fun node reached obstructed => ?_).symm
  refine clear node reached ?_
  obtain ⟨wraps, child, first, comment⟩ | ⟨cast, child, listed, comment⟩ := obstructed
  · exact .inl ⟨wraps, child, first, comment.1⟩
  · exact .inr ⟨cast, child, listed, comment.1⟩

/-- An expression and the expression without its comments have the same type, if no comment obscures
an expression whose type is looked at. An expression that wraps a comment has no type. -/
theorem infer_withoutComments (source : Source) (number : Nat → Nat) {expr : Node}
    (loose : expr.LooseComments) :
    ((∀ node, Relation.ReflTransGen Consults expr node → ¬ Obscured node) →
      infer source (expr.withoutComments number) = infer source expr) ∧
      ∀ comment, Relation.ReflTransGen Wraps expr comment → comment.kind = .comment →
        infer source expr = ⟨unknown, [.comment]⟩ :=
  ⟨infer_withoutComments_of_clear source number loose,
    fun _ => infer_eq_unknown_of_wraps_comment source⟩

def commentedArraySource : Source :=
  .ofString "[/*a*/(1/*b*/),-/*c*/2/*d*/,(x as number)satisfies/*e*/T]"

/-- The array of `commentedArraySource`, without the tokens that no reading looks at. -/
def commentedArray : Node := (Node.ofRows? [
  namedRow .array 5 0 57 none,
  namedRow .comment 0 1 6 none,
  namedRow .parenthesized 2 6 14 none,
  namedRow .number 0 7 8 none,
  namedRow .comment 0 8 13 none,
  namedRow .unaryExpression 3 15 22 none,
  ⟨.other "-", false, some .operator, ⟨15, 16⟩, 0⟩,
  namedRow .comment 0 16 21 none,
  namedRow .number 0 21 22 none,
  namedRow .comment 0 22 27 none,
  namedRow .satisfiesExpression 3 28 56 none,
  namedRow .parenthesized 1 28 41 none,
  namedRow .asExpression 2 29 40 none,
  namedRow .identifier 0 29 30 none,
  namedRow (.other "predefined_type") 0 34 40 none,
  namedRow .comment 0 50 55 none,
  namedRow .typeIdentifier 0 55 56 none]).getD default

def commentFirstSource : Source := .ofString "(/*c*/ 1)"

def commentFirst : Node := (Node.ofRows? [
  namedRow .parenthesized 4 0 9 none,
  ⟨.other "(", false, none, ⟨0, 1⟩, 0⟩,
  namedRow .comment 0 1 6 none,
  namedRow .number 0 7 8 none,
  ⟨.other ")", false, none, ⟨8, 9⟩, 0⟩]).getD default

/-- Comments between elements, after operands and before a target change nothing. A comment before
an operand is taken for it. -/
theorem infer_withoutComments_commentedArray :
    (commentedArray.LooseComments ∧
      (∀ node, Relation.ReflTransGen Consults commentedArray node → ¬ Obscured node) ∧
      commentedArray.size = (commentedArray.withoutComments id).size + 5 ∧
      infer commentedArraySource (commentedArray.withoutComments id) =
        infer commentedArraySource commentedArray ∧
      infer commentedArraySource commentedArray = ⟨"number[]", []⟩) ∧
    commentFirst.LooseComments ∧ ∃ comment,
      Relation.ReflTransGen Wraps commentFirst comment ∧ comment.kind = .comment ∧
        infer commentFirstSource commentFirst = ⟨unknown, [.comment]⟩ := by
  have loose : commentedArray.LooseComments := by decide +kernel
  have clear : ∀ node ∈ commentedArray.preorder, ¬ Obscured node := by decide +kernel
  have consulted (node : Node) (reached : Relation.ReflTransGen Consults commentedArray node) :
      ¬ Obscured node := clear node (mem_preorder_of_consulted reached)
  have looseToo : commentFirst.LooseComments := by decide +kernel
  have leads : commentFirst.namedChildren.head?.any (·.kind == .comment) = true := by decide +kernel
  obtain ⟨comment, first, kind⟩ := (Option.any_eq_true ..).mp leads
  have kind : comment.kind = .comment := beq_iff_eq.mp kind
  have wraps : Relation.ReflTransGen Wraps commentFirst comment :=
    .single (.operand (by decide +kernel) first)
  refine ⟨⟨loose, consulted, by decide +kernel, ?_, by decide +kernel⟩, looseToo, comment, wraps,
    kind, ?_⟩
  · exact (infer_withoutComments commentedArraySource id loose).1 consulted
  · exact (infer_withoutComments commentFirstSource id looseToo).2 comment wraps kind

/-- A comment in front of a number takes away its type. -/
theorem comment_hides_type :
    commentFirst.LooseComments ∧ (infer commentFirstSource commentFirst).text = "unknown" ∧
      (infer commentFirstSource (commentFirst.withoutComments id)).text = "number" := by
  decide +kernel

end ReactiveProps.Typing
