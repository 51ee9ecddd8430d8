import ReactiveProps.Property.ClassError
import ReactiveProps.Property.Decorator

/-!
# Roles of class members

Every field and getter of a class plays one role for its properties: it is decorated, it is the
static properties member, or it can lend its type to an entry of the static block.
-/
namespace ReactiveProps.Property

open SyntaxTree

inductive Role
  /-- Its name is not a plain name. -/
  | unnamed
  | decorated (name : String) (decorator : Node)
  /-- It is static and has the configured name. -/
  | staticProperties (name : String)
  | otherStatic
  | undecorated (name : String)

/-- The role of a member; none if it is neither field nor getter. -/
def role? (settings : Settings) (source : Source) (member : Site) : Option Role :=
  member.node.memberKind?.map fun _ =>
    match member.node.plainName? with
    | none => .unnamed
    | some nameNode =>
      let name := source.text nameNode
      match propertyDecorator? settings source member with
      | some decorator => .decorated name decorator
      | none =>
        if member.node.isStatic then
          if settings.staticProperties = some name then .staticProperties name else .otherStatic
        else .undecorated name

structure DecoratedMember where
  name : String
  member : Node
  decorator : Node

structure Classification where
  decorated : List DecoratedMember
  staticProperties : Option Node
  /-- The last undecorated member that is not static, by name. -/
  undecorated : OrderedMap String Node

def Classification.empty : Classification := ⟨[], none, .empty⟩

def extraStaticMessage (name : String) : String :=
  "Only the first static '" ++ name ++ "' declaration is analyzed"

/-- Adds a member in its role. Of several static properties members only the first counts; each
other one is logged and gets a warning. -/
def Classification.add (found : Classification) (source : Source) (path : Option String)
    (member : Node) : Role → Report ClassError Classification
  | .unnamed => .fail (.about .propertyName member)
  | .decorated name decorator =>
    .ok { found with decorated := found.decorated ++ [⟨name, member, decorator⟩] }
  | .staticProperties name =>
    match found.staticProperties with
    | none => .ok { found with staticProperties := some member }
    | some _ =>
      ⟨[.staticMemberIgnored name],
        [⟨.warning, extraStaticMessage name, some (.ofNode source member), none, path⟩],
        .ok found⟩
  | .otherStatic => .ok found
  | .undecorated name => .ok { found with undecorated := found.undecorated.insert name member }

def classifyFrom (settings : Settings) (source : Source) (path : Option String)
    (found : Classification) : List Site → Report ClassError Classification
  | [] => .ok found
  | member :: rest =>
    match role? settings source member with
    | none => classifyFrom settings source path found rest
    | some role =>
      (found.add source path member.node role).andThen fun found =>
        classifyFrom settings source path found rest

/-- The members of a class by their roles. The path is that of the module. -/
def classify (settings : Settings) (source : Source) (path : Option String) (cls : Node) :
    Report ClassError Classification :=
  classifyFrom settings source path .empty cls.classMembers

end ReactiveProps.Property
