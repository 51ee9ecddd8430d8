import ReactiveProps.Property.ClassError
import ReactiveProps.Property.Options

/-!
# The static properties block

The static properties member holds an object literal, as the value of a field or as what a getter
returns. Each of its entries declares a property.
-/
namespace ReactiveProps.Property

open SyntaxTree

/-- The object returned by the last statement of a getter. -/
def returnedObject? (getter : Node) : Option Node :=
  (getter.itemsOf .body).getLast?.bind fun statement =>
    if statement.kind = .returnStatement then
      statement.items.head?.filter (·.kind == .object)
    else none

def staticObject? (member : Node) : Option Node :=
  if member.kind.isField then (member.child? .value).filter (·.kind == .object)
  else if member.isGetter then returnedObject? member
  else none

def staticObject (member : Node) : Except ClassError Node :=
  match staticObject? member with
  | some object => .ok object
  | none => .error (.about .staticFormat member)

/-- The name and the options object of an entry. -/
def staticPair? (source : Source) (entry : Node) : Option (String × Node) :=
  match entryKey? source entry, (entry.child? .value).filter (·.kind == .object) with
  | some name, some options => some (name, options)
  | _, _ => none

def staticEntry (source : Source) (entry : Node) : Except ClassError (String × Node) :=
  match staticPair? source entry with
  | some found => .ok found
  | none => .error (.about .staticEntry entry)

end ReactiveProps.Property
