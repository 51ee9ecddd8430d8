import ReactiveProps.Proofs.Hints
import ReactiveProps.Property.Extraction

/-!
# Extraction as two lists of writes

Both passes over a class write to one map. `outcome_properties` separates what they compute, which
is a pair of name and property for each decorated member and each entry, from the writing.
-/
namespace ReactiveProps.Property

open SyntaxTree Typing

variable (settings : Settings) (resolver : Resolver) (source : Source) (cls : Node)

def decoratorObject? (decorator : Node) : Option Node :=
  (decoratorArguments source settings.propertyDecorator decorator).head?.filter (·.kind == .object)

/-- What the resolver says about a hint; nothing if there is none. -/
def hintType (hint : Option Node) : Except ExtractionError (Option TypeDescriptor) :=
  match hint with
  | none => .ok none
  | some hint => (resolveType resolver source hint).outcome.map some

def memberProperty (found : DecoratedMember) : Except ExtractionError ReactiveProperty :=
  (resolveType resolver source found.member).outcome.map fun type =>
    assemble source found.name (some type) (decoratorObject? settings source found.decorator)
      .decorator

def entryProperty (name : String) (options : Node) : Except ExtractionError ReactiveProperty :=
  (hintType resolver source (hint? settings source cls name)).map fun type =>
    assemble source name type (some options) .staticBlock

def entryWrite (entry : Node) : Except ExtractionError (String × ReactiveProperty) :=
  match staticPair? source entry with
  | none => .error (.rejected (.about .staticEntry entry))
  | some (name, options) =>
    (entryProperty settings resolver source cls name options).map (name, ·)

def memberWrites : Except ExtractionError (List (String × ReactiveProperty)) :=
  (decoratedMembers settings source cls).mapM fun found =>
    (memberProperty settings resolver source found).map (found.name, ·)

def staticWrites : Except ExtractionError (List (String × ReactiveProperty)) :=
  match selectedStatic? settings source cls with
  | none => .ok []
  | some member =>
    match staticObject? member with
    | none => .error (.rejected (.about .staticFormat member))
    | some object => object.items.mapM (entryWrite settings resolver source cls)

theorem outcome_propertyOptions {ε : Type} (decorator : Node) :
    (propertyOptions settings source decorator : Report ε _).outcome =
      .ok (decoratorObject? settings source decorator) := by
  unfold propertyOptions decoratorObject?
  cases decoratorArguments source settings.propertyDecorator decorator with
  | nil => rfl
  | cons argument rest =>
    by_cases literal : argument.kind = .object <;> simp [literal, Option.filter]

theorem outcome_resolveType_eq_ok_iff (node : Node) (type : TypeDescriptor) :
    (resolveType resolver source node).outcome = .ok type ↔
      (resolver source node).outcome = .ok type := by
  cases said : (resolver source node).outcome <;> simp [resolveType, said]

theorem outcome_decoratedProperty (found : DecoratedMember) :
    (decoratedProperty settings resolver source found).outcome =
      memberProperty settings resolver source found := by
  rw [decoratedProperty, Report.outcome_andThen, outcome_propertyOptions]
  simp only [Except.bind, Report.outcome_andThen, Report.outcome_ok]
  rfl

theorem outcome_staticProperty (name : String) (options : Node) :
    (staticProperty resolver source (hintTable settings source cls) name options).outcome =
      entryProperty settings resolver source cls name options := by
  unfold staticProperty entryProperty
  rw [get?_hintTable]
  cases hint? settings source cls name with
  | none => rfl
  | some hint =>
    simp only [hintType, Report.outcome_andThen, Report.outcome_ok]
    cases (resolveType resolver source hint).outcome <;> rfl

theorem outcome_addDecorated (map : PropertyMap) (members : List DecoratedMember) :
    (addDecorated settings resolver source map members).outcome =
      (members.mapM fun found =>
        (memberProperty settings resolver source found).map (found.name, ·)).map map.insertAll := by
  induction members generalizing map with
  | nil => rfl
  | cons found rest ih =>
    rw [addDecorated, Report.outcome_andThen, outcome_decoratedProperty, List.mapM_cons]
    cases memberProperty settings resolver source found with
    | error error => rfl
    | ok property =>
      simp only [Except.bind, ih]
      cases rest.mapM fun found =>
        (memberProperty settings resolver source found).map (found.name, ·) <;> rfl

theorem outcome_addStatic (map : PropertyMap) (entries : List Node) :
    (addStatic resolver source (hintTable settings source cls) map entries).outcome =
      (entries.mapM (entryWrite settings resolver source cls)).map map.insertAll := by
  induction entries generalizing map with
  | nil => rfl
  | cons entry rest ih =>
    rw [addStatic, staticEntry, List.mapM_cons, entryWrite]
    cases staticPair? source entry with
    | none => rfl
    | some found =>
      obtain ⟨name, options⟩ := found
      simp only [Report.outcome_andThen, outcome_staticProperty]
      cases entryProperty settings resolver source cls name options with
      | error error => rfl
      | ok property =>
        simp only [Except.bind, ih]
        cases rest.mapM (entryWrite settings resolver source cls) <;> rfl

theorem outcome_addStaticBlock (map : PropertyMap) :
    (addStaticBlock resolver source cls
      ⟨decoratedMembers settings source cls, selectedStatic? settings source cls,
        .ofPairs (hintMembers settings source cls)⟩ map).outcome =
      (staticWrites settings resolver source cls).map map.insertAll := by
  unfold addStaticBlock staticWrites
  cases selectedStatic? settings source cls with
  | none => rfl
  | some member =>
    simp only [Report.outcome_andThen, addConstructorHints, outcome_addAssignments, Except.bind,
      staticObject]
    cases staticObject? member with
    | none => rfl
    | some object => exact outcome_addStatic settings resolver source cls map object.items

/-- The first member without a plain name decides; else the writes of both passes are made in
order, or the first that cannot be made decides. -/
theorem outcome_properties (path : Option String) :
    (properties settings resolver source path cls).outcome =
      match cls.classMembers.find? isUnnamed with
      | some member => .error (.rejected (.about .propertyName member.node))
      | none =>
        (memberWrites settings resolver source cls).bind fun decorated =>
          (staticWrites settings resolver source cls).map fun static =>
            .ofPairs (decorated ++ static) := by
  rw [properties, Report.outcome_andThen, Report.outcome_mapError, outcome_classify]
  cases cls.classMembers.find? isUnnamed with
  | some member => rfl
  | none =>
    simp only [mapError_ok, Except.bind, Report.outcome_andThen, outcome_addDecorated,
      memberWrites]
    cases (decoratedMembers settings source cls).mapM fun found =>
        (memberProperty settings resolver source found).map (found.name, ·) with
    | error error => rfl
    | ok decorated =>
      simp only [Except.map, outcome_addStaticBlock]
      cases staticWrites settings resolver source cls with
      | error error => rfl
      | ok static =>
        simp only [OrderedMap.ofPairs, OrderedMap.insertAll_append]

end ReactiveProps.Property
