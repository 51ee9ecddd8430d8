import ReactiveProps.Text.Quoted

/-!
# Values of settings and contexts

Settings and error contexts hold values of several types. `display` is how a value appears inside
a message and `truthy` how it counts as a condition.
-/
namespace ReactiveProps

inductive Value
  | null
  | bool (value : Bool)
  | int (value : Int)
  | text (value : String)
  | list (items : List Value)
  deriving Repr

namespace Value

instance : Inhabited Value := ⟨null⟩

/-- Null, false, zero, the empty text and the empty list are not true. -/
def truthy : Value → Bool
  | null => false
  | bool value => value
  | int value => value != 0
  | text value => value != ""
  | list items => !items.isEmpty

mutual

/-- A value inside a list: as displayed, but text in quotes. -/
def displayInner : Value → String
  | null => "None"
  | bool value => if value then "True" else "False"
  | int value => toString value
  | text value => Text.quoted value
  | list items => "[" ++ ", ".intercalate (displayAll items) ++ "]"

def displayAll : List Value → List String
  | [] => []
  | item :: rest => displayInner item :: displayAll rest

end

def display : Value → String
  | text value => value
  | value => displayInner value

def text? : Value → Option String
  | text value => some value
  | _ => none

/-- The name of a value's type in messages. -/
def typeName : Value → String
  | null => "NoneType"
  | bool _ => "bool"
  | int _ => "int"
  | text _ => "str"
  | list _ => "list"

def ofOption : Option String → Value
  | some value => text value
  | none => null

/-- The texts of a collection: the members of a list that are texts, or the characters of a
text. The error says why a value is no collection. -/
def members? : Value → Except String (List String)
  | text value => .ok (value.toList.map Char.toString)
  | list items =>
    if items.any fun item => item matches list _ then .error "unhashable type: 'list'"
    else .ok (items.filterMap text?)
  | value => .error ("'" ++ value.typeName ++ "' object is not iterable")

end Value

end ReactiveProps
