import ReactiveProps.Property.Constructor
import ReactiveProps.Property.ReactiveProperty
import ReactiveProps.Property.StaticBlock

/-!
# The properties of a class

Decorated members come first, in the order of the class body; then the entries of the static block
write over them in the order of the object literal. A property declared again keeps its place.
-/
namespace ReactiveProps.Property

open SyntaxTree Typing

/-- What a resolver says about a node. A resolver that breaks down is an error about the node. -/
def resolveType (resolver : Resolver) (source : Source) (node : Node) :
    Report ExtractionError TypeDescriptor :=
  let resolution := resolver source node
  ⟨resolution.events, [],
    resolution.outcome.mapError fun
      | .crash reason => .rejected (.about (.typeResolution reason) node)
      | .abort message => .aborted message
      | .report place message details => .rejected ⟨.reported message, place, details⟩⟩

def assemble (source : Source) (name : String) (type : Option TypeDescriptor)
    (options : Option Node) (origin : Origin) : ReactiveProperty :=
  let decoded := decodeOptions source options name
  { name
    type
    attributeName := decoded.attributeName
    typeOption := decoded.typeOption
    reflect := decoded.reflect
    converter := decoded.converter.map fun node => .expression node.id (source.text node)
    origin }

def decoratedProperty (settings : Settings) (resolver : Resolver) (source : Source)
    (found : DecoratedMember) : Report ExtractionError ReactiveProperty :=
  (propertyOptions settings source found.decorator).andThen fun options =>
    (resolveType resolver source found.member).andThen fun type =>
      .ok (assemble source found.name (some type) options .decorator)

def addDecorated (settings : Settings) (resolver : Resolver) (source : Source)
    (properties : PropertyMap) : List DecoratedMember → Report ExtractionError PropertyMap
  | [] => .ok properties
  | found :: rest =>
    (decoratedProperty settings resolver source found).andThen fun property =>
      addDecorated settings resolver source (properties.insert found.name property) rest

/-- The property of an entry. Its type is that of the hint with its name, if there is one. -/
def staticProperty (resolver : Resolver) (source : Source) (hints : OrderedMap String Node)
    (name : String) (options : Node) : Report ExtractionError ReactiveProperty :=
  match hints.get? name with
  | none => .ok (assemble source name none (some options) .staticBlock)
  | some hint =>
    (resolveType resolver source hint).andThen fun type =>
      .ok (assemble source name (some type) (some options) .staticBlock)

def addStatic (resolver : Resolver) (source : Source) (hints : OrderedMap String Node)
    (properties : PropertyMap) : List Node → Report ExtractionError PropertyMap
  | [] => .ok properties
  | entry :: rest =>
    match staticEntry source entry with
    | .error error => .fail (.rejected error)
    | .ok (name, options) =>
      (staticProperty resolver source hints name options).andThen fun property =>
        addStatic resolver source hints (properties.insert name property) rest

/-- Adds the properties of the static block, if the class has one. -/
def addStaticBlock (resolver : Resolver) (source : Source) (cls : Node)
    (classes : Classification) (properties : PropertyMap) :
    Report ExtractionError PropertyMap :=
  match classes.staticProperties with
  | none => .ok properties
  | some member =>
    (addConstructorHints source cls classes.undecorated).andThen fun hints =>
      match staticObject member with
      | .error error => .fail (.rejected error)
      | .ok object => addStatic resolver source hints properties object.items

def properties (settings : Settings) (resolver : Resolver) (source : Source)
    (path : Option String) (cls : Node) : Report ExtractionError PropertyMap :=
  ((classify settings source path cls).mapError .rejected).andThen fun classes =>
    (addDecorated settings resolver source .empty classes.decorated).andThen fun decorated =>
      (addStaticBlock resolver source cls classes decorated).andThen fun properties =>
        ⟨[.propertiesExtracted properties.size], [], .ok properties⟩

end ReactiveProps.Property
