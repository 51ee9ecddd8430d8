import ReactiveProps.SyntaxTree.Listing

/-!
# Listings as text

A parsed module written as lines: one that says whether the parser found errors, then one for each
node in preorder. A node's line has `+` if it is named or `-` if not, its label or a dot, the two
byte offsets, the number of children and the tag, which may hold blanks.
-/
namespace ReactiveProps.SyntaxTree

def Row.line (row : Row) : String :=
  " ".intercalate [if row.named then "+" else "-", (row.field.map Field.label).getD ".",
    toString row.span.start, toString row.span.stop, toString row.arity, row.kind.tag]

def Row.ofLine? (line : String) : Option Row :=
  match line.splitOn " " with
  | mark :: label :: start :: stop :: arity :: tag => do
    some {
      kind := .ofTag (" ".intercalate tag)
      named := mark == "+"
      field := Field.ofLabel? label
      span := ⟨← start.toNat?, ← stop.toNat?⟩
      arity := ← arity.toNat? }
  | _ => none

namespace Parse

def soundMark : String := "sound"
def brokenMark : String := "broken"

mutual

/-- The rows of a tree. -/
def rowsOf : Node → List Row
  | ⟨_, kind, named, field, span, children⟩ =>
    ⟨kind, named, field, span, children.length⟩ :: rowsOfAll children

def rowsOfAll : List Node → List Row
  | [] => []
  | node :: rest => rowsOf node ++ rowsOfAll rest

end

def text (parse : Parse) : String :=
  "\n".intercalate ((if parse.hasErrors then brokenMark else soundMark) ::
    (rowsOf parse.root).map Row.line)

def ofText? (text : String) : Option Parse :=
  match (text.splitOn "\n").filter (· != "") with
  | [] => none
  | mark :: lines => do
    some ⟨← Node.ofRows? (← lines.mapM Row.ofLine?), mark == brokenMark⟩

/-- The parse of a module about which nothing is known. -/
def unknown : Parse := ⟨⟨0, .other "program", true, none, ⟨0, 0⟩, []⟩, true⟩

end Parse

end ReactiveProps.SyntaxTree
