import ReactiveProps.OrderedMap
import ReactiveProps.Typing.Resolver
import ReactiveProps.Value

/-!
# Reactive properties
-/
namespace ReactiveProps.Property

/-- The style in which a property is declared. -/
inductive Origin
  | decorator
  | staticBlock
  deriving DecidableEq, Repr

namespace Origin

def word : Origin → String
  | decorator => "decorator"
  | staticBlock => "static_block"

def ofWord? (word : String) : Option Origin :=
  [decorator, staticBlock].find? fun origin => origin.word == word

theorem ofWord?_word (origin : Origin) : ofWord? origin.word = some origin := by
  cases origin <;> decide

/-- The origin that a value names. -/
def ofValue (value : Value) : Except String Origin :=
  match value.text?.bind ofWord? with
  | some origin => .ok origin
  | none => .error (value.displayInner ++ " is not a valid DeclarationSource")

end Origin

inductive Converter
  /-- An expression of the source. -/
  | expression (node : Nat) (text : String)
  /-- Any other value. -/
  | plain (value : Value)

def Converter.text : Converter → String
  | expression _ text => text
  | plain value => value.display

structure ReactiveProperty where
  name : String
  type : Option Typing.TypeDescriptor
  attributeName : Option String
  typeOption : Option String
  reflect : Bool
  converter : Option Converter
  origin : Origin

abbrev PropertyMap := OrderedMap String ReactiveProperty

def ReactiveProperty.document (property : ReactiveProperty) : Json :=
  .object [
    ("name", .text property.name),
    ("type", .ofText? (property.type.map (·.text))),
    ("attribute", .ofText? property.attributeName),
    ("typeOption", .ofText? property.typeOption),
    ("reflect", .bool property.reflect),
    ("converter", .ofText? (property.converter.map (·.text))),
    ("source", .text property.origin.word)]

end ReactiveProps.Property
