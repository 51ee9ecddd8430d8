import ReactiveProps.Module
import ReactiveProps.Proofs.OrderedMap

/-!
# Results without node numbers

Ranges, types and converters carry the number that their node has in its tree. `unnumbered` leaves
these numbers out, so that results about two different trees can be equal.
-/
namespace ReactiveProps

namespace OrderedMap

variable {α β γ : Type}

/-- The same keys in the same places, with other values. -/
def mapValues (f : β → γ) (map : OrderedMap α β) : OrderedMap α γ where
  entries := map.entries.map fun entry => (entry.1, f entry.2)
  nodup_keys := by
    rw [List.map_map]
    exact map.nodup_keys

variable [DecidableEq α]

theorem get?_mapValues (f : β → γ) (map : OrderedMap α β) (key : α) :
    (map.mapValues f).get? key = (map.get? key).map f := by
  rw [get?, get?, mapValues, List.find?_map, Option.map_map, Option.map_map]
  rfl

theorem map_writeEntry (f : β → γ) (key : α) (value : β) (entries : List (α × β)) :
    (writeEntry key value entries).map (fun entry => (entry.1, f entry.2)) =
      writeEntry key (f value) (entries.map fun entry => (entry.1, f entry.2)) := by
  induction entries with
  | nil => rfl
  | cons entry rest ih =>
    rw [List.map_cons, writeEntry, writeEntry]
    split
    · rfl
    · rw [List.map_cons, ih]

theorem mapValues_insert (f : β → γ) (map : OrderedMap α β) (key : α) (value : β) :
    (map.insert key value).mapValues f = (map.mapValues f).insert key (f value) := by
  simp only [insert, mapValues, map_writeEntry]

theorem mapValues_insertAll (f : β → γ) (map : OrderedMap α β) (pairs : List (α × β)) :
    (map.insertAll pairs).mapValues f =
      (map.mapValues f).insertAll (pairs.map fun pair => (pair.1, f pair.2)) := by
  induction pairs generalizing map with
  | nil => rfl
  | cons pair rest ih => rw [insertAll_cons, ih, mapValues_insert, List.map_cons, insertAll_cons]

theorem mapValues_ofPairs (f : β → γ) (pairs : List (α × β)) :
    (ofPairs pairs).mapValues f = ofPairs (pairs.map fun pair => (pair.1, f pair.2)) :=
  mapValues_insertAll f empty pairs

end OrderedMap

def SourceRange.unnumbered (range : SourceRange) : SourceRange := { range with node := none }

def Diagnostic.unnumbered (diagnostic : Diagnostic) : Diagnostic :=
  { diagnostic with range := diagnostic.range.map (·.unnumbered) }

def Typing.TypeDescriptor.unnumbered (type : Typing.TypeDescriptor) : Typing.TypeDescriptor :=
  { type with node := none }

namespace Property

def Converter.unnumbered : Converter → Converter
  | .expression _ text => .expression 0 text
  | .plain value => .plain value

def ReactiveProperty.unnumbered (property : ReactiveProperty) : ReactiveProperty :=
  { property with
    type := property.type.map (·.unnumbered)
    converter := property.converter.map (·.unnumbered) }

def PropertyMap.unnumbered (map : PropertyMap) : PropertyMap :=
  map.mapValues (·.unnumbered)

end Property

def ElementDeclaration.unnumbered (element : ElementDeclaration) : ElementDeclaration :=
  { element with
    range := element.range.map (·.unnumbered)
    properties := Property.PropertyMap.unnumbered element.properties }

def Module.unnumbered (module : Module) : Module :=
  { module with
    elements := module.elements.map (·.unnumbered)
    diagnostics := module.diagnostics.map (·.unnumbered) }

end ReactiveProps
