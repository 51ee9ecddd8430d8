import ReactiveProps.Proofs.PairedReadings
import ReactiveProps.Proofs.PairedSites
import ReactiveProps.Proofs.Unnumbered

/-!
# Extraction from classes that read the same

Two classes whose members match give the same properties or the same error, if the resolver answers
alike for matching members. Bodies of methods count only for the constructor and for the static
properties member.
-/
namespace ReactiveProps.Property

open SyntaxTree Typing

inductive FailureAlike (M : Node → Node → Prop) : ResolverFailure → ResolverFailure → Prop
  | crash (reason : String) : FailureAlike M (.crash reason) (.crash reason)
  | abort (message : String) : FailureAlike M (.abort message) (.abort message)
  | report {place place' : Option Node} (places : Option.Rel M place place') (message : String)
      (details : OrderedMap String Value) :
      FailureAlike M (.report place message details) (.report place' message details)

/-- Two answers of resolvers: types that read the same, or failures that say the same. -/
def SameAnswer (M : Node → Node → Prop) (first second : Resolution) : Prop :=
  EndAlike (FailureAlike M) (fun type other => type.unnumbered = other.unnumbered)
    first.outcome second.outcome

structure SameClassError (M : Node → Node → Prop) (first second : ClassError) : Prop where
  problem : first.problem = second.problem
  place : Option.Rel M first.node second.node
  details : first.details = second.details

inductive FaultAlike (M : Node → Node → Prop) : ExtractionError → ExtractionError → Prop
  | rejected {first second : ClassError} (same : SameClassError M first second) :
      FaultAlike M (.rejected first) (.rejected second)
  | aborted (message : String) : FaultAlike M (.aborted message) (.aborted message)

theorem faultAlike_about {M : Node → Node → Prop} {a b : Node} (problem : Problem)
    (matched : M a b) :
    FaultAlike M (.rejected (.about problem a)) (.rejected (.about problem b)) :=
  .rejected ⟨rfl, .some matched, rfl⟩

section Values

variable {κ α β : Type} [DecidableEq κ] {R : α → β → Prop} {xs : List (κ × α)} {ys : List (κ × β)}
  (matched : List.Forall₂ (SameKey R) xs ys) (key : κ)

include matched

theorem rel_firstValue? : Option.Rel R (firstValue? xs key) (firstValue? ys key) := by
  have found := rel_find?_of_forall₂ matched (p := fun pair => pair.1 = key)
    (q := fun pair => pair.1 = key) fun x y same => by rw [same.1]
  exact rel_map found fun x y same => same.2

theorem rel_lastValue? : Option.Rel R (lastValue? xs key) (lastValue? ys key) :=
  rel_firstValue? (List.rel_reverse matched) key

end Values

variable {left right : Source} {P : Pairing left right} {M : Node → Node → Prop}
  {up : Option Node → Option Node → Prop} (settings : Settings) (resolver : Resolver)

section Members

variable (covers : P.Covers M) {a b : Site} (same : P.SameSite M up a b)

include covers same

theorem isUnnamed_eq : isUnnamed a = isUnnamed b := by
  have outline := covers.outline same.node
  have name := isSome_eq_of_rel (outline.rel_plainName? fun _ => P.isTrimming_of_gap)
  rw [isUnnamed, isUnnamed, outline.memberKind?_eq fun _ => P.isTrimming_of_gap,
    ← Option.not_isSome, ← Option.not_isSome, name]

theorem declaredName?_eq : declaredName? left a = declaredName? right b := by
  have outline := covers.outline same.node
  rw [declaredName?, declaredName?, outline.memberKind?_eq fun _ => P.isTrimming_of_gap,
    outline.map_text_plainName? fun _ => P.isTrimming_of_gap]

theorem rel_propertyDecorator? :
    Option.Rel P.pairs (propertyDecorator? settings left a)
      (propertyDecorator? settings right b) := by
  have decorators := Pairing.forall₂_memberDecorators covers same
  exact rel_find?_of_forall₂ decorators fun _ _ paired =>
    isSome_decoratorUse?_eq P settings.propertyDecorator paired

structure DecoratedAlike (P : Pairing left right) (M : Node → Node → Prop)
    (x y : DecoratedMember) : Prop where
  name : x.name = y.name
  member : M x.member y.member
  decorator : P.pairs x.decorator y.decorator

theorem rel_decoratedMember? :
    Option.Rel (DecoratedAlike P M) (decoratedMember? settings left a)
      (decoratedMember? settings right b) := by
  unfold decoratedMember?
  rw [declaredName?_eq covers same]
  cases declaredName? right b with
  | none => exact .none
  | some name =>
    exact rel_map (rel_propertyDecorator? settings covers same)
      fun _ _ paired => ⟨rfl, same.node, paired⟩

theorem rel_undecoratedMember? :
    Option.Rel (SameKey M) (undecoratedMember? settings left a)
      (undecoratedMember? settings right b) := by
  have decorated := isSome_eq_of_rel (rel_propertyDecorator? settings covers same)
  unfold undecoratedMember?
  rw [← Option.not_isSome, ← Option.not_isSome, decorated, declaredName?_eq covers same]
  split
  · cases declaredName? right b with
    | none => exact .none
    | some name => exact .some ⟨rfl, same.node⟩
  · exact .none

theorem rel_staticCandidate? :
    Option.Rel (SameKey M) (staticCandidate? settings left a) (staticCandidate? settings right b) :=
  rel_optionFilter (rel_undecoratedMember? settings covers same) fun x y found => by
    rw [(covers.outline found.2).isStatic_eq fun _ => P.isTrimming_of_gap, found.1]

theorem rel_hintMember? :
    Option.Rel (SameKey M) (hintMember? settings left a) (hintMember? settings right b) :=
  rel_optionFilter (rel_undecoratedMember? settings covers same) fun x y found => by
    rw [(covers.outline found.2).isStatic_eq fun _ => P.isTrimming_of_gap]

end Members

section Picks

variable {cls cls' : Node} (covers : P.Covers M)
  (members : List.Forall₂ (P.SameSite M up) cls.classMembers cls'.classMembers)

include covers members

theorem matched_selectedStatic? :
    Option.Rel M (selectedStatic? settings left cls) (selectedStatic? settings right cls') := by
  have candidates := rel_findSome? members fun _ _ same =>
    rel_staticCandidate? settings covers same
  exact rel_map candidates fun _ _ same => same.2

omit settings in
theorem matched_constructor? :
    Option.Rel M (constructor? left cls) (constructor? right cls') := by
  have nodes : List.Forall₂ M (cls.classMembers.map Site.node) (cls'.classMembers.map Site.node) :=
    List.rel_map (fun _ _ same => same.node) members
  exact rel_find?_of_forall₂ nodes fun _ _ same =>
    (covers.outline same).isConstructor_eq fun _ => P.isTrimming_of_gap

end Picks

section Assembling

variable (name : String)

def SameProperty (x y : ReactiveProperty) : Prop := x.unnumbered = y.unnumbered

theorem sameProperty_assemble {type type' : Option TypeDescriptor} {options options' : Option Node}
    (origin : Origin) (types : type.map (·.unnumbered) = type'.map (·.unnumbered))
    (given : Option.Rel P.pairs options options') :
    SameProperty (assemble left name type options origin)
      (assemble right name type' options' origin) := by
  have converted : ((converter left options).map fun node =>
        (Converter.expression node.id (left.text node)).unnumbered) =
      (converter right options').map fun node =>
        (Converter.expression node.id (right.text node)).unnumbered :=
    map_eq_of_rel (rel_converter P given) fun x y paired => by
      simp only [Converter.unnumbered, P.text_eq paired]
  simp only [SameProperty, assemble, decodeOptions, ReactiveProperty.unnumbered, types,
    attributeName_eq P given, typeOption_eq P given, reflect_eq P given, Option.map_map,
    Function.comp_def, converted]

end Assembling

section Answers

variable {resolver} {a b : Node}

theorem resolveType_alike (matched : M a b)
    (answer : SameAnswer M (resolver left a) (resolver right b)) :
    EndAlike (FaultAlike M) (fun type other => type.unnumbered = other.unnumbered)
      (resolveType resolver left a).outcome (resolveType resolver right b).outcome := by
  unfold SameAnswer at answer
  simp only [resolveType]
  generalize (resolver left a).outcome = x, (resolver right b).outcome = y at answer ⊢
  cases answer with
  | ok value => exact .ok value
  | error fault =>
    cases fault with
    | crash reason => exact .error (faultAlike_about _ matched)
    | abort message => exact .error (.aborted message)
    | report places message details => exact .error (.rejected ⟨rfl, places, rfl⟩)

end Answers

section Classes

variable {cls cls' : Node}

/-- Classes that extraction cannot tell apart: their members match, and where it looks into the
body of a method, the methods read the same all the way down. -/
structure ClassesAlike (P : Pairing left right) (M : Node → Node → Prop)
    (up : Option Node → Option Node → Prop) (settings : Settings) (cls cls' : Node) : Prop where
  members : List.Forall₂ (P.SameSite M up) cls.classMembers cls'.classMembers
  selected : Option.Rel P.pairs (selectedStatic? settings left cls)
    (selectedStatic? settings right cls')
  methods : Option.Rel P.pairs (constructor? left cls) (constructor? right cls')

variable (covers : P.Covers M) (alike : ClassesAlike P M up settings cls cls')
  (answers : ∀ {a b}, M a b → SameAnswer M (resolver left a) (resolver right b))

section Readings

include covers alike

theorem forall₂_decoratedMembers :
    List.Forall₂ (DecoratedAlike P M) (decoratedMembers settings left cls)
      (decoratedMembers settings right cls') :=
  forall₂_filterMap alike.members fun _ _ same => rel_decoratedMember? settings covers same

theorem forall₂_hintMembers :
    List.Forall₂ (SameKey M) (hintMembers settings left cls) (hintMembers settings right cls') :=
  forall₂_filterMap alike.members fun _ _ same => rel_hintMember? settings covers same

theorem rel_hint? (name : String) :
    Option.Rel M (hint? settings left cls name) (hint? settings right cls' name) := by
  have assigned := rel_firstValue? (forall₂_constructorAssignments P alike.methods) name
  exact rel_or (rel_lastValue? (forall₂_hintMembers settings covers alike) name)
    (rel_mono assigned fun _ _ => covers.of_pairs)

theorem rel_unnamed : Option.Rel (P.SameSite M up) (cls.classMembers.find? isUnnamed)
    (cls'.classMembers.find? isUnnamed) :=
  rel_find?_of_forall₂ alike.members fun _ _ same => isUnnamed_eq covers same

theorem forall₂_surplusStatic :
    List.Forall₂ (SameKey M) (surplusStatic settings left none (namedPrefix cls.classMembers))
      (surplusStatic settings right none (namedPrefix cls'.classMembers)) := by
  have members : Aligned (P.SameSite M up) (fun _ => False) cls.classMembers cls'.classMembers :=
    .of_forall₂ alike.members
  have named := (members.takeWhile (p := fun member => !isUnnamed member)
    (q := fun member => !isUnnamed member)
    (fun _ _ same => by rw [isUnnamed_eq covers same]) nofun).forall₂ fun _ => id
  have candidates := forall₂_filterMap named fun _ _ same =>
    rel_staticCandidate? settings covers same
  simp only [surplusStatic, namedPrefix, Option.isSome_none, Bool.false_eq_true, if_false,
    ← List.drop_one]
  exact List.forall₂_drop 1 candidates

end Readings

include covers alike answers

omit covers alike in
theorem hintType_alike {hint hint' : Option Node} (hinted : Option.Rel M hint hint') :
    EndAlike (FaultAlike M)
      (fun type other => type.map (·.unnumbered) = other.map (·.unnumbered))
      (hintType resolver left hint) (hintType resolver right hint') := by
  cases hinted with
  | none => exact .ok rfl
  | some matched =>
    exact (resolveType_alike matched (answers matched)).map fun _ _ same => congrArg some same

theorem memberWrites_alike :
    EndAlike (FaultAlike M) (List.Forall₂ (SameKey SameProperty))
      (memberWrites settings resolver left cls) (memberWrites settings resolver right cls') := by
  refine EndAlike.mapM (forall₂_decoratedMembers settings covers alike) fun x y found => ?_
  have type := resolveType_alike found.member (answers found.member)
  have property : EndAlike (FaultAlike M) SameProperty (memberProperty settings resolver left x)
      (memberProperty settings resolver right y) := by
    unfold memberProperty
    rw [found.name]
    exact type.map fun _ _ same => sameProperty_assemble y.name .decorator (congrArg some same)
      (rel_decoratorObject? P settings found.decorator)
  exact property.map fun _ _ same => ⟨found.name, same⟩

theorem entryWrite_alike {entry entry' : Node} (paired : P.pairs entry entry') :
    EndAlike (FaultAlike M) (SameKey SameProperty)
      (entryWrite settings resolver left cls entry)
      (entryWrite settings resolver right cls' entry') := by
  have read := rel_staticPair? P paired
  unfold entryWrite
  generalize staticPair? left entry = x, staticPair? right entry' = y at read ⊢
  cases read with
  | none => exact .error (faultAlike_about _ (covers.of_pairs paired))
  | @some x y same =>
    obtain ⟨name, options⟩ := x
    obtain ⟨name', options'⟩ := y
    obtain ⟨rfl, given⟩ : name = name' ∧ P.pairs options options' := same
    have type := hintType_alike resolver answers (rel_hint? settings covers alike name)
    have property : EndAlike (FaultAlike M) SameProperty
        (entryProperty settings resolver left cls name options)
        (entryProperty settings resolver right cls' name options') :=
      type.map fun _ _ same => sameProperty_assemble name .staticBlock same (.some given)
    exact property.map fun _ _ same => ⟨rfl, same⟩

theorem staticWrites_alike :
    EndAlike (FaultAlike M) (List.Forall₂ (SameKey SameProperty))
      (staticWrites settings resolver left cls) (staticWrites settings resolver right cls') := by
  have selected := alike.selected
  unfold staticWrites
  generalize selectedStatic? settings left cls = x, selectedStatic? settings right cls' = y
    at selected ⊢
  cases selected with
  | none => exact .ok .nil
  | @some member member' paired =>
    have object := rel_staticObject? P paired
    simp only
    generalize staticObject? member = x, staticObject? member' = y at object ⊢
    cases object with
    | none => exact .error (faultAlike_about _ (covers.of_pairs paired))
    | some literal =>
      exact EndAlike.mapM (P.forall₂_items literal) fun _ _ same =>
        entryWrite_alike settings resolver covers alike answers same

omit covers alike answers in
theorem unnumbered_ofPairs {writes writes' : List (String × ReactiveProperty)}
    (same : List.Forall₂ (SameKey SameProperty) writes writes') :
    PropertyMap.unnumbered (.ofPairs writes) = PropertyMap.unnumbered (.ofPairs writes') := by
  unfold PropertyMap.unnumbered
  rw [OrderedMap.mapValues_ofPairs, OrderedMap.mapValues_ofPairs]
  refine congrArg _ (map_eq_of_forall₂ same fun x y pair => ?_)
  exact Prod.ext pair.1 pair.2

/-- Two classes that extraction cannot tell apart have the same properties, or it fails on matching
nodes with the same error. -/
theorem outcome_properties_alike (path path' : Option String) :
    EndAlike (FaultAlike M)
      (fun map other => PropertyMap.unnumbered map = PropertyMap.unnumbered other)
      (properties settings resolver left path cls).outcome
      (properties settings resolver right path' cls').outcome := by
  have unnamed := rel_unnamed settings covers alike
  rw [outcome_properties, outcome_properties]
  generalize cls.classMembers.find? isUnnamed = x, cls'.classMembers.find? isUnnamed = y
    at unnamed ⊢
  cases unnamed with
  | some same => exact .error (faultAlike_about _ same.node)
  | none =>
    refine (memberWrites_alike settings resolver covers alike answers).bind fun ms ms' first => ?_
    refine (staticWrites_alike settings resolver covers alike answers).map fun ss ss' second => ?_
    exact unnumbered_ofPairs (List.rel_append first second)

end Classes

end ReactiveProps.Property
