import ReactiveProps.Proofs.Extraction
import ReactiveProps.Proofs.Pairing

/-!
# Decorators, options and assignments of paired nodes

What extraction reads off one node it also reads off the node that is paired with it.
-/
namespace ReactiveProps.Property

open SyntaxTree

def SameKey {κ α β : Type} (R : α → β → Prop) (x : κ × α) (y : κ × β) : Prop :=
  x.1 = y.1 ∧ R x.2 y.2

/-- Uses of a name by two decorators. -/
inductive UseAlike (R : Node → Node → Prop) : DecoratorUse → DecoratorUse → Prop
  | bare : UseAlike R .bare .bare
  | call {a b : Node} (paired : R a b) : UseAlike R (.call a) (.call b)

variable {left right : Source} (P : Pairing left right) {a b : Node}

section Decorators

variable (name : Option String) (settings : Settings)

theorem isNamed_eq (paired : P.pairs a b) : isNamed left name a = isNamed right name b := by
  rw [isNamed, isNamed, P.kind_eq paired, P.text_eq paired]

theorem rel_decoratorUse? (paired : P.pairs a b) :
    Option.Rel (UseAlike P.pairs) (decoratorUse? left name a) (decoratorUse? right name b) := by
  refine rel_bind (rel_head? (P.forall₂_items paired)) fun x y same => ?_
  have callee := any_eq_of_rel (P.rel_child? same .function) (p := isNamed left name)
    (q := isNamed right name) fun _ _ => isNamed_eq P name
  rw [isNamed_eq P name same, P.kind_eq same, callee]
  split
  · exact .some .bare
  · split
    · exact .some (.call same)
    · exact .none

theorem isSome_decoratorUse?_eq (paired : P.pairs a b) :
    (decoratorUse? left name a).isSome = (decoratorUse? right name b).isSome :=
  isSome_eq_of_rel (rel_decoratorUse? P name paired)

theorem forall₂_decoratorArguments (paired : P.pairs a b) :
    List.Forall₂ P.pairs (decoratorArguments left name a) (decoratorArguments right name b) := by
  have used := rel_decoratorUse? P name paired
  unfold decoratorArguments
  generalize decoratorUse? left name a = x, decoratorUse? right name b = y at used ⊢
  cases used with
  | none => exact .nil
  | some use =>
    cases use with
    | bare => exact .nil
    | call same => exact P.forall₂_itemsOf same .arguments

theorem rel_decoratorObject? (paired : P.pairs a b) :
    Option.Rel P.pairs (decoratorObject? settings left a) (decoratorObject? settings right b) :=
  rel_optionFilter (rel_head? (forall₂_decoratorArguments P settings.propertyDecorator paired))
    fun _ _ same => by rw [P.kind_eq same]

theorem decoratorTag?_eq (paired : P.pairs a b) :
    decoratorTag? settings left a = decoratorTag? settings right b := by
  have arguments := forall₂_decoratorArguments P settings.elementDecorator paired
  unfold decoratorTag?
  generalize decoratorArguments left settings.elementDecorator a = xs,
    decoratorArguments right settings.elementDecorator b = ys at arguments ⊢
  cases arguments with
  | nil => rfl
  | cons first _ => simp only [P.kind_eq first, P.unquoted_eq first]

end Decorators

section Options

theorem entryKey?_eq (paired : P.pairs a b) : entryKey? left a = entryKey? right b := by
  have plain := rel_optionFilter (P.rel_child? paired .key) (p := (·.kind.isPlainName))
    (q := (·.kind.isPlainName)) fun _ _ same => by rw [P.kind_eq same]
  rw [entryKey?, entryKey?, P.kind_eq paired, map_eq_of_rel plain fun _ _ => P.text_eq]

/-- What the first entries with a key hold in two lists of entries that match. -/
theorem rel_value_of_matched {entries entries' : List Node}
    (matched : List.Forall₂ P.pairs entries entries') (key : String) :
    Option.Rel P.pairs
      ((entries.find? fun entry => entryKey? left entry == some key).bind (·.child? .value))
      ((entries'.find? fun entry => entryKey? right entry == some key).bind (·.child? .value)) := by
  have found := rel_find?_of_forall₂ matched
    (p := fun entry => entryKey? left entry == some key)
    (q := fun entry => entryKey? right entry == some key)
    fun x y same => by rw [entryKey?_eq P same]
  exact rel_bind found fun x y same => P.rel_child? same .value

theorem rel_objectValue? (paired : P.pairs a b) (key : String) :
    Option.Rel P.pairs (objectValue? left a key) (objectValue? right b key) :=
  rel_value_of_matched P (P.forall₂_items paired) key

theorem attributeFor_eq (name : String) (paired : P.pairs a b) :
    attributeFor left name a = attributeFor right name b := by
  rw [attributeFor, attributeFor, P.kind_eq paired, P.unquoted_eq paired, P.isUndefined_eq paired]

variable {options options' : Option Node}

def SameValue (options options' : Option Node) (key : String) : Prop :=
  Option.Rel P.pairs (optionValue? left options key) (optionValue? right options' key)

theorem attributeName_eq_of_value (value : SameValue P options options' "attribute")
    (name : String) : attributeName left options name = attributeName right options' name := by
  unfold SameValue at value
  unfold attributeName
  generalize optionValue? left options "attribute" = x,
    optionValue? right options' "attribute" = y at value ⊢
  cases value with
  | none => rfl
  | some same => exact attributeFor_eq P name same

theorem typeOption_eq_of_value (value : SameValue P options options' "type") :
    typeOption left options = typeOption right options' :=
  map_eq_of_rel (rel_optionFilter value fun _ _ same => by rw [P.kind_eq same]) fun _ _ => P.text_eq

theorem reflect_eq_of_value (value : SameValue P options options' "reflect") :
    reflect left options = reflect right options' :=
  any_eq_of_rel value fun _ _ same => by rw [P.kind_eq same]

variable (given : Option.Rel P.pairs options options')

include given

theorem rel_optionValue? (key : String) : SameValue P options options' key :=
  rel_bind given fun _ _ same => rel_objectValue? P same key

theorem attributeName_eq (name : String) :
    attributeName left options name = attributeName right options' name :=
  attributeName_eq_of_value P (rel_optionValue? P given "attribute") name

theorem typeOption_eq : typeOption left options = typeOption right options' :=
  typeOption_eq_of_value P (rel_optionValue? P given "type")

theorem reflect_eq : reflect left options = reflect right options' :=
  reflect_eq_of_value P (rel_optionValue? P given "reflect")

theorem rel_converter : Option.Rel P.pairs (converter left options) (converter right options') :=
  rel_optionValue? P given "converter"

end Options

section StaticBlock

theorem rel_returnedObject? (paired : P.pairs a b) :
    Option.Rel P.pairs (returnedObject? a) (returnedObject? b) := by
  refine rel_bind (rel_getLast? (P.forall₂_itemsOf paired .body)) fun x y same => ?_
  rw [P.kind_eq same]
  split
  · exact rel_optionFilter (rel_head? (P.forall₂_items same))
      fun _ _ inner => by rw [P.kind_eq inner]
  · exact .none

theorem rel_staticObject? (paired : P.pairs a b) :
    Option.Rel P.pairs (staticObject? a) (staticObject? b) := by
  have getter := (P.outline paired).isGetter_eq fun _ => P.isTrimming_of_gap
  unfold staticObject?
  rw [P.kind_eq paired, getter]
  split
  · exact rel_optionFilter (P.rel_child? paired .value)
      fun _ _ same => by rw [P.kind_eq same]
  · split
    · exact rel_returnedObject? P paired
    · exact .none

theorem rel_staticPair? (paired : P.pairs a b) :
    Option.Rel (SameKey P.pairs) (staticPair? left a) (staticPair? right b) := by
  have value := rel_optionFilter (P.rel_child? paired .value) (p := (·.kind == .object))
    (q := (·.kind == .object)) fun _ _ same => by rw [P.kind_eq same]
  unfold staticPair?
  rw [entryKey?_eq P paired]
  generalize (a.child? .value).filter (·.kind == .object) = x,
    (b.child? .value).filter (·.kind == .object) = y at value ⊢
  cases entryKey? right b with
  | none => exact .none
  | some key =>
    cases value with
    | none => exact .none
    | some same => exact .some ⟨rfl, same⟩

end StaticBlock

section Assignments

theorem rel_thisAssignment? (paired : P.pairs a b) :
    Option.Rel (fun x y => P.pairs x.1 y.1 ∧ P.pairs x.2 y.2) a.thisAssignment?
      b.thisAssignment? := by
  have items := P.forall₂_items paired
  unfold Node.thisAssignment?
  rw [P.kind_eq paired]
  split
  · generalize a.items = xs, b.items = ys at items ⊢
    cases items with
    | nil => exact .none
    | @cons x y xs ys same rest =>
      cases rest with
      | cons => exact .none
      | nil =>
        have target := P.rel_child? same .left
        have value := P.rel_child? same .right
        simp only [P.kind_eq same]
        split
        · generalize x.child? .left = l, y.child? .left = l',
            x.child? .right = r, y.child? .right = r' at target value ⊢
          cases target with
          | none => exact .none
          | @some l l' target =>
            cases value with
            | none => exact .none
            | some value =>
              have object := any_eq_of_rel (P.rel_child? target .object)
                (p := (·.kind == .thisWord)) (q := (·.kind == .thisWord))
                fun _ _ same => by rw [P.kind_eq same]
              have property := rel_optionFilter (P.rel_child? target .property)
                (p := (·.kind.isPlainName)) (q := (·.kind.isPlainName))
                fun _ _ same => by rw [P.kind_eq same]
              simp only [P.kind_eq target, object]
              split
              · exact rel_map property fun _ _ same => ⟨same, value⟩
              · exact .none
        · exact .none
  · exact .none

theorem forall₂_constructorAssignments {cls cls' : Node}
    (methods : Option.Rel P.pairs (constructor? left cls) (constructor? right cls')) :
    List.Forall₂ (SameKey P.pairs) (constructorAssignments left cls)
      (constructorAssignments right cls') := by
  unfold constructorAssignments
  generalize constructor? left cls = x, constructor? right cls' = y at methods ⊢
  cases methods with
  | none => exact .nil
  | some method =>
    refine forall₂_filterMap (P.forall₂_itemsOf method .body) fun s t same => ?_
    refine rel_map (rel_thisAssignment? P same) ?_
    rintro ⟨name, value⟩ ⟨name', value'⟩ ⟨names, values⟩
    simp only [SameKey]
    exact ⟨P.text_eq names, values⟩

end Assignments

end ReactiveProps.Property
