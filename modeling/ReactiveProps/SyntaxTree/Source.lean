import ReactiveProps.SyntaxTree.Node

/-!
# Source text

A module's source as UTF-8 bytes, the text of a node and the line and column of an offset. Lines
end at a line feed and columns count bytes.
-/
namespace ReactiveProps.SyntaxTree

structure Source where
  bytes : ByteArray

/-- Lines and columns count from zero. -/
structure Position where
  line : Nat
  column : Nat
  deriving DecidableEq, Repr

namespace Source

def ofString (text : String) : Source := ⟨text.toUTF8⟩

/-- The bytes of a span as text; none if they are not UTF-8. A span that reaches beyond the end
gives what there is. -/
def slice? (source : Source) (span : Span) : Option String :=
  String.fromUTF8? (source.bytes.extract span.start span.stop)

/-- The text of a node, whose span never splits a character. -/
def text (source : Source) (node : Node) : String :=
  (source.slice? node.span).getD ""

/-- The text of a string literal without its quotes. -/
def unquoted (source : Source) (node : Node) : String :=
  String.ofList ((source.text node).toList.drop 1).dropLast

/-- The bytes before an offset. -/
def before (source : Source) (offset : Nat) : List UInt8 :=
  source.bytes.data.toList.take offset

def lineFeed : UInt8 := 10

def position (source : Source) (offset : Nat) : Position where
  line := (source.before offset).count lineFeed
  column := ((source.before offset).reverse.takeWhile (· != lineFeed)).length

end Source

end ReactiveProps.SyntaxTree
