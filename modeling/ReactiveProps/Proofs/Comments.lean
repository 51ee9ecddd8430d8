import ReactiveProps.Proofs.Merge
import ReactiveProps.Proofs.PairedAnalysis
import ReactiveProps.Proofs.PairedTypes

/-!
# Comments never change the analysis

`withoutComments` is the tree that is left when every comment is taken out. A lookup that stumbled
over a comment would read the two trees differently. None does, so a module and the same module
without comments have the same elements and diagnostics or fail with the same error.
-/
namespace ReactiveProps

namespace SyntaxTree

namespace Node

mutual

/-- The tree without its comments. What is left stands where it stood; `number` says which number
each remaining node has in the smaller tree. -/
def withoutComments (number : Nat → Nat) : Node → Node
  | ⟨id, kind, named, field, span, children⟩ =>
    ⟨number id, kind, named, field, span, withoutCommentsAll number children⟩

def withoutCommentsAll (number : Nat → Nat) : List Node → List Node
  | [] => []
  | node :: rest =>
    if node.kind = .comment then withoutCommentsAll number rest
    else node.withoutComments number :: withoutCommentsAll number rest

end

section Readings

variable (number : Nat → Nat) (node : Node)

theorem kind_withoutComments : (node.withoutComments number).kind = node.kind := by
  cases node; rw [withoutComments]

theorem named_withoutComments : (node.withoutComments number).named = node.named := by
  cases node; rw [withoutComments]

theorem field_withoutComments : (node.withoutComments number).field = node.field := by
  cases node; rw [withoutComments]

theorem span_withoutComments : (node.withoutComments number).span = node.span := by
  cases node; rw [withoutComments]

theorem children_withoutComments :
    (node.withoutComments number).children = withoutCommentsAll number node.children := by
  cases node; rw [withoutComments]

end Readings

/-- Comments are leaves without a label, and the root is none of them. -/
structure LooseComments (root : Node) : Prop where
  content : root.kind ≠ .comment
  loose : ∀ node ∈ root.preorder, node.kind = .comment → node.field = none ∧ node.children = []

instance (root : Node) : Decidable root.LooseComments :=
  decidable_of_iff (root.kind ≠ .comment ∧ ∀ node ∈ root.preorder, node.kind = .comment →
      node.field = none ∧ node.children = [])
    ⟨fun h => ⟨h.1, h.2⟩, fun h => ⟨h.content, h.loose⟩⟩

/-- What has become of a node of a tree: it is still there, and only its comments are gone. -/
structure Remains (number : Nat → Nat) (root node other : Node) : Prop where
  inside : node ∈ root.preorder
  content : node.kind ≠ .comment
  eq : other = node.withoutComments number

theorem mem_preorder_self (node : Node) : node ∈ node.preorder := by
  rw [preorder_eq]
  exact List.mem_cons_self

theorem mem_preorderAll_of_mem {node : Node} {nodes : List Node} (listed : node ∈ nodes) :
    node ∈ preorderAll nodes := by
  induction nodes with
  | nil => cases listed
  | cons first rest ih =>
    rw [preorderAll, List.mem_append]
    rcases List.mem_cons.mp listed with rfl | later
    · exact .inl (mem_preorder_self node)
    · exact .inr (ih later)

mutual

theorem mem_preorder_of_child {node child : Node} (below : child ∈ node.children) :
    ∀ root : Node, node ∈ root.preorder → child ∈ root.preorder
  | ⟨id, kind, named, field, span, children⟩, inside => by
    rw [preorder_eq] at inside ⊢
    refine List.mem_cons_of_mem _ ?_
    rcases List.mem_cons.mp inside with rfl | deeper
    · exact mem_preorderAll_of_mem below
    · exact mem_preorderAll_of_child below children deeper

theorem mem_preorderAll_of_child {node child : Node} (below : child ∈ node.children) :
    ∀ nodes : List Node, node ∈ preorderAll nodes → child ∈ preorderAll nodes
  | [], inside => by cases inside
  | first :: rest, inside => by
    rw [preorderAll, List.mem_append] at inside ⊢
    rcases inside with early | late
    · exact .inl (mem_preorder_of_child below first early)
    · exact .inr (mem_preorderAll_of_child below rest late)

end

variable (number : Nat → Nat) {root : Node} (loose : root.LooseComments)

include loose

theorem aligned_withoutCommentsAll {nodes : List Node}
    (inside : ∀ node ∈ nodes, node ∈ root.preorder) :
    Aligned (Remains number root)
      (fun node => node.kind = .comment ∧ node.field = none ∧ node.children = []) nodes
      (withoutCommentsAll number nodes) := by
  induction nodes with
  | nil => exact .nil
  | cons first rest ih =>
    have here := inside first List.mem_cons_self
    have tail := ih fun node later => inside node (List.mem_cons_of_mem _ later)
    rw [withoutCommentsAll]
    split
    · next comment => exact .skip ⟨comment, loose.loose first here comment⟩ tail
    · next content => exact .cons ⟨here, content, rfl⟩ tail

theorem remains_root : Remains number root root (root.withoutComments number) where
  inside := mem_preorder_self root
  content := loose.content
  eq := rfl

end Node

def remaining (source : Source) (number : Nat → Nat) {root : Node} (loose : root.LooseComments) :
    Pairing source source where
  pairs := Node.Remains number root
  gap node := node.kind = .comment ∧ node.field = none ∧ node.children = []
  kind_eq := by
    rintro node _ ⟨-, -, rfl⟩
    exact (node.kind_withoutComments number).symm
  named_eq := by
    rintro node _ ⟨-, -, rfl⟩
    exact (node.named_withoutComments number).symm
  field_eq := by
    rintro node _ ⟨-, -, rfl⟩
    exact (node.field_withoutComments number).symm
  text_eq := by
    rintro node _ ⟨-, -, rfl⟩
    rw [Source.text, Source.text, node.span_withoutComments number]
  children := by
    rintro node _ ⟨inside, -, rfl⟩
    rw [node.children_withoutComments number]
    exact Node.aligned_withoutCommentsAll number loose
      fun child below => Node.mem_preorder_of_child below root inside
  comment_of_gap := And.left
  unlabelled_of_gap gap := gap.2.1
  leaf_of_gap gap := gap.2.2

end SyntaxTree

namespace Analysis

open SyntaxTree Typing Property

def Parser.withoutComments (number : Nat → Nat) (parser : Parser) : Parser := fun grammar text =>
  let parse := parser grammar text
  { parse with root := parse.root.withoutComments number }

def Parsed.withoutComments (number : Nat → Nat) (parsed : Parsed) : Parsed :=
  { parsed with tree := { parsed.tree with root := parsed.tree.root.withoutComments number } }

theorem parsed_withoutComments (number : Nat → Nat) (parser : Parser) (job : Job) :
    job.parsed (parser.withoutComments number) =
      (job.parsed parser).map (Parsed.withoutComments number) := by
  unfold Job.parsed
  cases job.grammar with
  | error error => rfl
  | ok grammar =>
    simp only [parse]
    cases job.code.encode with
    | error error => rfl
    | ok text => rfl

/-- A module has the same elements and diagnostics as the module without its comments, up to node
numbers, or both fail with the same error about what is the same node. -/
theorem result_withoutComments (parser : Parser) (analyzer : Analyzer) (settings : Settings)
    (job : Job) (parsed : Parsed) (number : Nat → Nat) (parses : job.parsed parser = .ok parsed)
    (loose : parsed.tree.root.LooseComments)
    (unmoved : ∀ node other, Node.Remains number parsed.tree.root node other →
      SameAnswer (Node.Remains number parsed.tree.root) (analyzer.resolver parsed.source node)
        (analyzer.resolver parsed.source other)) :
    SameResult (Node.Remains number parsed.tree.root)
      (analyze parser analyzer settings job).result
      (analyze (parser.withoutComments number) analyzer settings job).result := by
  obtain ⟨source, tree⟩ := parsed
  have pruned := parsed_withoutComments number parser job
  rw [parses] at pruned
  simp only [analyze, parses, pruned, Except.map]
  refine analyzeParsed_alike (P := remaining source number loose) ?_ settings analyzer.strict
    job.path ?_ (Node.remains_root number loose)
  · rintro node _ ⟨-, -, rfl⟩
    exact (node.span_withoutComments number).symm
  · exact fun paired => unmoved _ _ paired

def commentedText : String :=
  "/*0*/@customElement(/*1*/\"a-b\")class A extends/*2*/LitElement\x7b@property(/*3*/\x7btype:X\x7d)"
    ++ "/*4*/get x()\x7b\x7d/*5*/static get properties()\x7breturn/*6*/\x7b/*7*/y:/*8*/\x7b\x7d\x7d"
    ++ "/*9*/\x7dconstructor()\x7b/*a*/this.y/*b*/=\"\"\x7d\x7d"

/-- The module of `commentedText`, with a comment wherever a reading looks past one. -/
def commented : Node := (Node.ofRows? [
  namedRow (.other "program") 2 0 197 none,
  namedRow .comment 0 0 5 none,
  namedRow .classDeclaration 4 5 197 none,
  namedRow .decorator 1 5 31 none,
  namedRow .callExpression 2 6 31 none,
  namedRow .identifier 0 6 19 (some .function),
  namedRow (.other "arguments") 2 19 31 (some .arguments),
  namedRow .comment 0 20 25 none,
  namedRow .stringLiteral 0 25 30 none,
  namedRow .typeIdentifier 0 37 38 (some .name),
  namedRow .classHeritage 1 39 61 none,
  namedRow .extendsClause 2 39 61 none,
  namedRow .comment 0 46 51 none,
  namedRow .identifier 0 51 61 (some .value),
  namedRow (.other "class_body") 6 61 197 (some .body),
  namedRow .decorator 1 62 86 none,
  namedRow .callExpression 2 63 86 none,
  namedRow .identifier 0 63 71 (some .function),
  namedRow (.other "arguments") 2 71 86 (some .arguments),
  namedRow .comment 0 72 77 none,
  namedRow .object 1 77 85 none,
  namedRow .pair 2 78 84 none,
  namedRow .propertyIdentifier 0 78 82 (some .key),
  namedRow .identifier 0 83 84 (some .value),
  namedRow .comment 0 86 91 none,
  namedRow .methodDefinition 3 91 100 none,
  ⟨.getWord, false, none, ⟨91, 94⟩, 0⟩,
  namedRow .propertyIdentifier 0 95 96 (some .name),
  namedRow (.other "statement_block") 0 98 100 (some .body),
  namedRow .comment 0 100 105 none,
  namedRow .methodDefinition 4 105 162 none,
  ⟨.staticWord, false, none, ⟨105, 111⟩, 0⟩,
  ⟨.getWord, false, none, ⟨112, 115⟩, 0⟩,
  namedRow .propertyIdentifier 0 116 126 (some .name),
  namedRow (.other "statement_block") 2 128 162 (some .body),
  namedRow .returnStatement 2 129 156 none,
  namedRow .comment 0 135 140 none,
  namedRow .object 2 140 156 none,
  namedRow .comment 0 141 146 none,
  namedRow .pair 3 146 155 none,
  namedRow .propertyIdentifier 0 146 147 (some .key),
  namedRow .comment 0 148 153 none,
  namedRow .object 0 153 155 (some .value),
  namedRow .comment 0 156 161 none,
  namedRow .methodDefinition 2 162 196 none,
  namedRow .propertyIdentifier 0 162 173 (some .name),
  namedRow (.other "statement_block") 2 175 196 (some .body),
  namedRow .comment 0 176 181 none,
  namedRow .expressionStatement 1 181 195 none,
  namedRow .assignmentExpression 3 181 195 none,
  namedRow .memberExpression 2 181 187 (some .left),
  namedRow .thisWord 0 181 185 (some .object),
  namedRow .propertyIdentifier 0 186 187 (some .property),
  namedRow .comment 0 187 192 none,
  namedRow .stringLiteral 0 193 195 (some .right)]).getD default

def commentedJob : Job := ⟨.ofString commentedText, some "a.ts", none⟩

def commentedParser : Parser := fun _ _ => ⟨commented, false⟩

/-- Twelve comments are gone, and both modules have the element with its two properties. -/
theorem result_withoutComments_commented :
    let settings := Configuration.default.settings
    let pruned := commentedParser.withoutComments id
    (∃ parsed, commentedJob.parsed commentedParser = .ok parsed ∧
      parsed.tree.root.LooseComments ∧
      parsed.tree.root.size = (parsed.tree.root.withoutComments id).size + 12) ∧
      ∃ module other,
        (analyze commentedParser ⟨syntactic, true⟩ settings commentedJob).result = .ok module ∧
          (analyze pruned ⟨syntactic, true⟩ settings commentedJob).result = .ok other ∧
          module.unnumbered = other.unnumbered ∧
          module.elements.map (fun element => (element.tag, element.properties.keys)) =
            [(some "a-b", ["x", "y"])] := by
  intro settings pruned
  have checked : (commentedJob.parsed commentedParser).toOption.map (fun parsed => decide
      (parsed.tree.root.LooseComments ∧
        parsed.tree.root.size = (parsed.tree.root.withoutComments id).size + 12 ∧
        ∀ node ∈ parsed.tree.root.preorder,
          annotationOf? parsed.source node =
              annotationOf? parsed.source (node.withoutComments id) ∧
            (inferenceOf parsed.source node).text =
              (inferenceOf parsed.source (node.withoutComments id)).text)) = some true := by
    decide +kernel
  obtain ⟨parsed, kept, verdict⟩ := Option.map_eq_some_iff.mp checked
  obtain ⟨loose, fewer, same⟩ := of_decide_eq_true verdict
  have parses := toOption_eq_some_iff.mp kept
  have alike := result_withoutComments commentedParser ⟨syntactic, true⟩ settings commentedJob
    parsed id parses loose (by
      rintro node _ ⟨inside, -, rfl⟩
      exact sameAnswer_syntactic (same node inside).1 (same node inside).2)
  have reported : ((analyze commentedParser ⟨syntactic, true⟩ settings
      commentedJob).result.toOption.map fun module =>
        module.elements.map fun element => (element.tag, element.properties.keys)) =
          some [(some "a-b", ["x", "y"])] := by decide +kernel
  obtain ⟨module, returned, elements⟩ := Option.map_eq_some_iff.mp reported
  have returned := toOption_eq_some_iff.mp returned
  refine ⟨⟨parsed, parses, loose, fewer⟩, module, ?_⟩
  rw [returned] at alike
  cases ends : (analyze pruned ⟨syntactic, true⟩ settings commentedJob).result with
  | error error =>
    rw [ends] at alike
    cases alike
  | ok other =>
    rw [ends] at alike
    cases alike with
    | ok equal => exact ⟨other, returned, rfl, equal, elements⟩

end Analysis

end ReactiveProps
