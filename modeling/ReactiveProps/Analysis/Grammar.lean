import ReactiveProps.Text.Lowercase

/-!
# Grammars

The grammars a module can be parsed with, and which one a path asks for.
-/
namespace ReactiveProps.Analysis

inductive Grammar
  | typescript
  | tsx
  deriving DecidableEq, Repr

namespace Grammar

def name : Grammar → String
  | typescript => "typescript"
  | tsx => "tsx"

def ofName? (name : String) : Option Grammar :=
  [typescript, tsx].find? fun grammar => grammar.name == name

theorem ofName?_name (grammar : Grammar) : ofName? grammar.name = some grammar := by
  cases grammar <;> decide

/-- The extension of a path, from the last dot of its last component on; none if only dots stand
before that dot. -/
def extension (path : String) : String :=
  let back := path.toList.reverse
  let ending := back.takeWhile fun c => c != '.' && c != '/'
  match back.drop ending.length with
  | '.' :: stem =>
    if (stem.takeWhile (· != '/')).any (· != '.') then String.ofList ('.' :: ending.reverse)
    else ""
  | _ => ""

/-- Files that may contain markup need the larger grammar. -/
def ofPath (path : String) : Grammar :=
  if Text.lowercase (extension path) ∈ [".tsx", ".jsx"] then tsx else typescript

end Grammar

end ReactiveProps.Analysis
