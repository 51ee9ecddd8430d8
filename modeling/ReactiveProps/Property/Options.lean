import ReactiveProps.Text.Lowercase
import ReactiveProps.SyntaxTree.Shape

/-!
# Options of a property

The options object of a property, given to its decorator or as its entry in the static block. A
value that cannot be told from the source alone counts as the default.
-/
namespace ReactiveProps.Property

open SyntaxTree

structure Options where
  attributeName : Option String
  typeOption : Option String
  reflect : Bool
  converter : Option Node

/-- The key of a `key: value` entry, if it is a plain name. -/
def entryKey? (source : Source) (entry : Node) : Option String :=
  if entry.kind = .pair then
    ((entry.child? .key).filter (·.kind.isPlainName)).map source.text
  else none

/-- The value of the first entry of an object with the given key. -/
def objectValue? (source : Source) (object : Node) (key : String) : Option Node :=
  (object.items.find? fun entry => entryKey? source entry == some key).bind (·.child? .value)

/-- The value of a key of the options object, if there is an object. -/
def optionValue? (source : Source) (options : Option Node) (key : String) : Option Node :=
  options.bind fun object => objectValue? source object key

/-- The attribute that an option value gives to a property. -/
def attributeFor (source : Source) (name : String) (value : Node) : Option String :=
  if value.kind = .stringLiteral then some (source.unquoted value)
  else if value.kind = .trueLiteral ∨ value.isUndefined source then some (Text.lowercase name)
  else none

/-- The attribute of a property: its own name in lower case unless the options say otherwise,
none if it is turned off or cannot be told. -/
def attributeName (source : Source) (options : Option Node) (name : String) : Option String :=
  match optionValue? source options "attribute" with
  | some value => attributeFor source name value
  | none => some (Text.lowercase name)

/-- The name given as the `type` option. -/
def typeOption (source : Source) (options : Option Node) : Option String :=
  ((optionValue? source options "type").filter (·.kind == .identifier)).map source.text

def reflect (source : Source) (options : Option Node) : Bool :=
  (optionValue? source options "reflect").any (·.kind == .trueLiteral)

/-- The expression given as the `converter` option, as it stands. -/
def converter (source : Source) (options : Option Node) : Option Node :=
  optionValue? source options "converter"

def decodeOptions (source : Source) (options : Option Node) (name : String) : Options :=
  ⟨attributeName source options name, typeOption source options, reflect source options,
    converter source options⟩

end ReactiveProps.Property
