import Mathlib.Data.List.Nodup
import ReactiveProps.Proofs.Content
import ReactiveProps.Proofs.Merge
import ReactiveProps.Proofs.PairedTypes

/-!
# Two styles of declaring properties

Properties can be declared by a decorator on each member, or by a static properties object with an
entry for each member. If the entries say what the decorators say, both styles give the same
properties apart from their origin, whatever else the classes contain.
-/
namespace ReactiveProps.Property

open SyntaxTree Typing

section Declarations

variable (settings : Settings) (source : Source) (cls : Node)

def declarations : List Site := cls.classMembers.filter (·.node.memberKind?.isSome)

def otherDeclarations : List Site :=
  (declarations cls).filter fun member => (staticCandidate? settings source member).isNone

def propertyDecorators (member : Site) : List Node :=
  member.memberDecorators.filter fun decorator =>
    (decoratorUse? source settings.propertyDecorator decorator).isSome

theorem propertyDecorator?_eq_head? (member : Site) :
    propertyDecorator? settings source member =
      (propertyDecorators settings source member).head? :=
  List.head?_filter.symm

theorem memberKind?_isSome_of_mem {member : Site} (inside : member ∈ declarations cls) :
    member.node.memberKind?.isSome = true :=
  (List.mem_filter.mp inside).2

theorem declaredName?_eq_none {member : Site} (other : member.node.memberKind? = none) :
    declaredName? source member = none := by
  rw [declaredName?, other]
  rfl

theorem filterMap_declarations {β : Type} {f : Site → Option β}
    (silent : ∀ member, declaredName? source member = none → f member = none) :
    (declarations cls).filterMap f = cls.classMembers.filterMap f := by
  rw [declarations, List.filterMap_filter]
  refine List.filterMap_congr fun member _ => ?_
  cases kind : member.node.memberKind? with
  | none => exact (silent member (declaredName?_eq_none source kind)).symm
  | some _ => rfl

theorem decoratedMembers_eq :
    decoratedMembers settings source cls =
      (declarations cls).filterMap (decoratedMember? settings source) := by
  refine (filterMap_declarations source cls fun member nameless => ?_).symm
  rw [decoratedMember?, nameless]
  rfl

theorem undecoratedMember?_of_nameless {member : Site}
    (nameless : declaredName? source member = none) :
    undecoratedMember? settings source member = none := by
  rw [undecoratedMember?, nameless]
  exact ite_self none

/-- A static properties member lends its type to no entry. -/
theorem hintMember?_of_candidate {member : Site}
    (candidate : (staticCandidate? settings source member).isSome = true) :
    hintMember? settings source member = none := by
  unfold staticCandidate? at candidate
  unfold hintMember?
  cases found : undecoratedMember? settings source member with
  | none => rfl
  | some pair =>
    rw [found, Option.filter_some] at candidate
    cases static : pair.2.isStatic with
    | true => simp [static]
    | false => simp [static] at candidate

theorem hintMembers_eq :
    hintMembers settings source cls =
      (otherDeclarations settings source cls).filterMap (hintMember? settings source) := by
  have all := filterMap_declarations source cls (f := hintMember? settings source)
    fun member nameless => by
      rw [hintMember?, undecoratedMember?_of_nameless settings source nameless]
      rfl
  rw [hintMembers, ← all, otherDeclarations, List.filterMap_filter]
  refine List.filterMap_congr fun member _ => ?_
  cases candidate : staticCandidate? settings source member with
  | none => rfl
  | some pair => exact hintMember?_of_candidate settings source (by rw [candidate]; rfl)

theorem of_candidate {member : Site}
    (candidate : (staticCandidate? settings source member).isSome = true) :
    (declaredName? source member).isSome = true ∧
      propertyDecorator? settings source member = none := by
  have undecorated : (undecoratedMember? settings source member).isSome = true := by
    unfold staticCandidate? at candidate
    cases found : undecoratedMember? settings source member with
    | none =>
      rw [found] at candidate
      cases candidate
    | some _ => rfl
  unfold undecoratedMember? at undecorated
  split at undecorated
  · next bare =>
    rw [Option.isSome_map] at undecorated
    exact ⟨undecorated, Option.isNone_iff_eq_none.mp bare⟩
  · cases undecorated

theorem find?_isUnnamed_eq_none
    (named : ∀ member ∈ declarations cls, (declaredName? source member).isSome = true) :
    cls.classMembers.find? isUnnamed = none := by
  rw [List.find?_eq_none]
  intro member inside unnamed
  rw [isUnnamed, Bool.and_eq_true] at unnamed
  have name := named member (List.mem_filter.mpr ⟨inside, unnamed.1⟩)
  rw [declaredName?, if_pos unnamed.1, Option.isSome_map] at name
  rw [Option.isNone_iff_eq_none.mp unnamed.2] at name
  cases name

theorem outcome_properties_of_writes (resolver : Resolver) (path : Option String)
    {decorated static : List (String × ReactiveProperty)}
    (named : ∀ member ∈ declarations cls, (declaredName? source member).isSome = true)
    (first : memberWrites settings resolver source cls = .ok decorated)
    (second : staticWrites settings resolver source cls = .ok static) :
    (properties settings resolver source path cls).outcome =
      .ok (.ofPairs (decorated ++ static)) := by
  rw [outcome_properties, find?_isUnnamed_eq_none source cls named, first, second]
  rfl

end Declarations

section Styles

variable (settings : Settings) (left right : Source)

/-- Members that are the same apart from decorators of the first that the second lacks. -/
def SameButDecorators (a b : Node) : Prop :=
  a.kind = b.kind ∧ a.named = b.named ∧
    Aligned (fun x y => sameContent left right x y = true)
      (fun child => child.field = none ∧ child.kind = .decorator) a.children b.children

instance (a b : Node) : Decidable (SameButDecorators left right a b) :=
  inferInstanceAs (Decidable (_ ∧ _ ∧ _))

def BareMember (a b : Site) : Prop :=
  SameButDecorators left right a.node b.node ∧ propertyDecorators settings right b = []

instance (a b : Site) : Decidable (BareMember settings left right a b) :=
  inferInstanceAs (Decidable (_ ∧ _))

/-- Whether an object has the content of the options that a decorator is called with; without
options, whether it is empty. -/
def sameOptions (decorator object : Node) : Bool :=
  match decoratorObject? settings left decorator with
  | some given => sameContent left right { given with field := object.field } object
  | none => object.items.isEmpty

/-- Whether an entry says of a property what the only property decorator of a member says. -/
def restates (member : Site) (entry : Node) : Bool :=
  match propertyDecorators settings left member, staticPair? right entry with
  | [decorator], some (name, object) =>
    declaredName? left member == some name && sameOptions settings left right decorator object
  | _, _ => false

/-- A class in which every field and getter is decorated, and a class with the same members without
decorators and with the entries of `literal` as its static properties. -/
structure TwoStyles (cls cls' literal : Node) : Prop where
  instances : ∀ member ∈ declarations cls, member.node.isStatic = false
  distinct : ((declarations cls).map (declaredName? left)).Nodup
  bare : List.Forall₂ (BareMember settings left right) (declarations cls)
    (otherDeclarations settings right cls')
  object : (selectedStatic? settings right cls').bind staticObject? = some literal
  entries : List.Forall₂ (fun member entry => restates settings left right member entry = true)
    (declarations cls) literal.items

end Styles

variable {settings : Settings} {left right : Source}

section Members

theorem outline_of_sameButDecorators {a b : Node} (same : SameButDecorators left right a b) :
    (contentPairing left right).Outline
      (fun child => child.field = none ∧ child.kind = .decorator) a b := by
  obtain ⟨kind, named, children⟩ := same
  exact ⟨kind, named, children.mono (fun _ _ => .inl) fun _ => id⟩

theorem isTrimming_of_decorator (child : Node)
    (trim : child.field = none ∧ child.kind = .decorator) : child.IsTrimming :=
  ⟨trim.1, .inr trim.2⟩

theorem declaredName?_eq_of_bare {a b : Site} (bare : BareMember settings left right a b) :
    declaredName? left a = declaredName? right b := by
  have outline := outline_of_sameButDecorators bare.1
  rw [declaredName?, declaredName?, outline.memberKind?_eq isTrimming_of_decorator,
    outline.map_text_plainName? isTrimming_of_decorator]

theorem undecorated_of_bare {a b : Site} (bare : BareMember settings left right a b) :
    propertyDecorator? settings right b = none := by
  rw [propertyDecorator?_eq_head?, bare.2]
  rfl

theorem isStatic_eq_of_bare {a b : Site} (bare : BareMember settings left right a b) :
    a.node.isStatic = b.node.isStatic :=
  (outline_of_sameButDecorators bare.1).isStatic_eq isTrimming_of_decorator

theorem field_or_method_of_memberKind? {node : Node} (declares : node.memberKind?.isSome = true) :
    node.kind.isField ∨ node.kind = .methodDefinition := by
  unfold Node.memberKind? at declares
  split at declares
  · next field => exact .inl field
  · split at declares
    · next getter =>
      rw [Node.isGetter, Bool.and_eq_true, beq_iff_eq] at getter
      exact .inr getter.1
    · cases declares

theorem of_restates {member : Site} {entry : Node}
    (told : restates settings left right member entry = true) :
    ∃ decorator name object, propertyDecorators settings left member = [decorator] ∧
      declaredName? left member = some name ∧ staticPair? right entry = some (name, object) ∧
        sameOptions settings left right decorator object = true := by
  unfold restates at told
  split at told
  · next decorator name object only read =>
    rw [Bool.and_eq_true, beq_iff_eq] at told
    exact ⟨decorator, name, object, only, told.1, read, told.2⟩
  · cases told

end Members

theorem types_of_sameAnswer {M : Node → Node → Prop} {a b : Node}
    (same : SameAnswer M (syntactic left a) (syntactic right b)) :
    ∃ type other, (resolveType syntactic left a).outcome = .ok type ∧
      (resolveType syntactic right b).outcome = .ok other ∧ type.unnumbered = other.unnumbered := by
  have answered : ∃ type, (syntactic left a).outcome = .ok type := by
    unfold syntactic
    cases annotationOf? left a with
    | some text => exact ⟨_, rfl⟩
    | none => exact ⟨_, rfl⟩
  obtain ⟨type, first⟩ := answered
  unfold SameAnswer at same
  rw [first] at same
  cases second : (syntactic right b).outcome with
  | error failure =>
    rw [second] at same
    cases same
  | ok other =>
    rw [second] at same
    cases same with
    | ok types =>
      exact ⟨type, other, (outcome_resolveType_eq_ok_iff syntactic left a type).mpr first,
        (outcome_resolveType_eq_ok_iff syntactic right b other).mpr second, types⟩

/-- Properties that differ in their origin and in node numbers only. -/
def Restyled (property other : ReactiveProperty) : Prop :=
  property.origin = .decorator ∧
    { property.unnumbered with origin := .staticBlock } = other.unnumbered

/-- An empty options object says what no options say. -/
theorem assemble_of_empty {source : Source} {name : String} {type : Option TypeDescriptor}
    {object : Node} {origin : Origin} (empty : object.items = []) :
    assemble source name type (some object) origin = assemble source name type none origin := by
  have silent (key : String) : optionValue? source (some object) key = none := by
    rw [optionValue?, Option.bind_some, objectValue?, empty]
    rfl
  simp only [assemble, decodeOptions, attributeName, typeOption, reflect, converter, silent]
  rfl

theorem restyled_assemble {name : String} {type other : TypeDescriptor} {decorator object : Node}
    (types : type.unnumbered = other.unnumbered)
    (options : sameOptions settings left right decorator object = true) :
    Restyled
      (assemble left name (some type) (decoratorObject? settings left decorator) .decorator)
      (assemble right name (some other) (some object) .staticBlock) := by
  refine ⟨rfl, ?_⟩
  have types : (some type).map (·.unnumbered) = (some other).map (·.unnumbered) :=
    congrArg some types
  unfold sameOptions at options
  cases given : decoratorObject? settings left decorator with
  | some argument =>
    rw [given] at options
    -- the two objects have different labels, which no option is read from
    let relabelled : Node := { argument with field := object.field }
    have same : (contentPairing left right).pairs relabelled object := options
    have equal : SameProperty (assemble left name (some type) (some relabelled) .staticBlock)
        (assemble right name (some other) (some object) .staticBlock) :=
      sameProperty_assemble name .staticBlock types (.some same)
    exact equal
  | none =>
    rw [given] at options
    rw [assemble_of_empty (List.isEmpty_iff.mp options)]
    exact sameProperty_assemble (P := contentPairing left right) name .staticBlock types .none

section Classes

variable {cls cls' literal : Node} (styles : TwoStyles settings left right cls cls' literal)

include styles

theorem named_left : ∀ member ∈ declarations cls, (declaredName? left member).isSome = true := by
  intro member inside
  obtain ⟨entry, -, told⟩ := exists_of_mem styles.entries inside
  obtain ⟨_, name, _, -, named, -⟩ := of_restates told
  rw [named]
  rfl

theorem map_declaredName?_eq :
    (declarations cls).map (declaredName? left) =
      (otherDeclarations settings right cls').map (declaredName? right) :=
  map_eq_of_forall₂ styles.bare fun _ _ bare => declaredName?_eq_of_bare bare

theorem named_other : ∀ member ∈ otherDeclarations settings right cls',
    (declaredName? right member).isSome = true := by
  intro member inside
  have listed : declaredName? right member ∈
      (declarations cls).map (declaredName? left) := by
    rw [map_declaredName?_eq styles]
    exact List.mem_map_of_mem inside
  obtain ⟨original, there, same⟩ := List.mem_map.mp listed
  rw [← same]
  exact named_left styles original there

omit styles in
theorem candidate_or_bare {member : Site} (inside : member ∈ declarations cls') :
    (staticCandidate? settings right member).isSome = true ∨
      member ∈ otherDeclarations settings right cls' := by
  cases candidate : staticCandidate? settings right member with
  | some _ => exact .inl rfl
  | none => exact .inr (List.mem_filter.mpr ⟨inside, by rw [candidate]; rfl⟩)

theorem named_right : ∀ member ∈ declarations cls', (declaredName? right member).isSome = true := by
  intro member inside
  rcases candidate_or_bare inside with candidate | bare
  · exact (of_candidate settings right candidate).1
  · exact named_other styles member bare

theorem staticWrites_left (resolver : Resolver) :
    staticWrites settings resolver left cls = .ok [] := by
  have none : cls.classMembers.filterMap (staticCandidate? settings left) = [] := by
    rw [← filterMap_declarations left cls]
    · refine List.filterMap_eq_nil_iff.mpr fun member inside => ?_
      obtain ⟨entry, -, told⟩ := exists_of_mem styles.entries inside
      obtain ⟨decorator, -, -, only, -⟩ := of_restates told
      rw [staticCandidate?, undecoratedMember?, propertyDecorator?_eq_head?, only]
      rfl
    · intro member nameless
      rw [staticCandidate?, undecoratedMember?_of_nameless settings left nameless]
      rfl
  have unselected : selectedStatic? settings left cls = Option.none := by
    rw [selectedStatic?, ← List.head?_filterMap, none]
    rfl
  rw [staticWrites, unselected]

theorem memberWrites_right (resolver : Resolver) :
    memberWrites settings resolver right cls' = .ok [] := by
  have none : decoratedMembers settings right cls' = [] := by
    rw [decoratedMembers_eq]
    refine List.filterMap_eq_nil_iff.mpr fun member inside => ?_
    have undecorated : propertyDecorator? settings right member = Option.none := by
      rcases candidate_or_bare inside with candidate | bare
      · exact (of_candidate settings right candidate).2
      · obtain ⟨original, -, same⟩ := exists_of_mem (List.Forall₂.flip styles.bare) bare
        exact undecorated_of_bare same
    rw [decoratedMember?, undecorated]
    exact Option.bind_fun_none _
  rw [memberWrites, none]
  rfl

theorem hintMember?_of_bare {a b : Site} (inside : a ∈ declarations cls)
    (bare : BareMember settings left right a b) {name : String}
    (named : declaredName? left a = some name) :
    hintMember? settings right b = some (name, b.node) := by
  have own : b.node.isStatic = false :=
    (isStatic_eq_of_bare bare).symm.trans (styles.instances a inside)
  rw [hintMember?, undecoratedMember?, undecorated_of_bare bare, ← declaredName?_eq_of_bare bare,
    named]
  simp [own]

theorem nodup_hintMembers : ((hintMembers settings right cls').map Prod.fst).Nodup := by
  have matched : List.Forall₂ (fun hint member => declaredName? right member = some hint.1)
      (hintMembers settings right cls') (otherDeclarations settings right cls') := by
    rw [hintMembers_eq]
    refine forall₂_filterMap_left (List.forall₂_same.mpr fun b inside => ?_)
    obtain ⟨a, there, bare⟩ := exists_of_mem (List.Forall₂.flip styles.bare) inside
    obtain ⟨name, named⟩ := Option.isSome_iff_exists.mp (named_left styles a there)
    exact ⟨_, hintMember?_of_bare styles there bare named,
      (declaredName?_eq_of_bare bare).symm.trans named⟩
  have names : (hintMembers settings right cls').map (fun hint => some hint.1) =
      (otherDeclarations settings right cls').map (declaredName? right) :=
    map_eq_of_forall₂ matched fun _ _ named => named.symm
  have distinct := styles.distinct
  rw [map_declaredName?_eq styles, ← names] at distinct
  -- the names of the bare members are those of the first class, which differ pairwise
  have distinct : (((hintMembers settings right cls').map Prod.fst).map some).Nodup := by
    rw [List.map_map]
    exact distinct
  exact List.Nodup.of_map some distinct

/-- The entry of a member takes its type from the bare member. -/
theorem hint?_of_declaration {a : Site} (inside : a ∈ declarations cls) {name : String}
    (named : declaredName? left a = some name) :
    ∃ b, hint? settings right cls' name = some b ∧ SameButDecorators left right a.node b := by
  obtain ⟨b, listed, bare⟩ := exists_of_mem styles.bare inside
  have hinted : (name, b.node) ∈ hintMembers settings right cls' := by
    rw [hintMembers_eq]
    exact List.mem_filterMap.mpr ⟨b, listed, hintMember?_of_bare styles inside bare named⟩
  refine ⟨b.node, ?_, bare.1⟩
  rw [hint?, lastValue?_of_mem (nodup_hintMembers styles) hinted, Option.some_or]

/-- The decorator of a member and its entry write the same property, apart from its origin. -/
theorem writes_restyled {a : Site} {entry : Node} (inside : a ∈ declarations cls)
    (told : restates settings left right a entry = true) :
    ∃ found, decoratedMember? settings left a = some found ∧
      declaredName? left a = some found.name ∧
        EndAlike (fun _ _ => False) (SameKey Restyled)
          ((memberProperty settings syntactic left found).map (found.name, ·))
          (entryWrite settings syntactic right cls' entry) := by
  obtain ⟨decorator, name, object, only, named, read, options⟩ := of_restates told
  obtain ⟨b, hinted, same⟩ := hint?_of_declaration styles inside named
  have answers : SameAnswer (fun _ _ => False) (syntactic left a.node) (syntactic right b) :=
    sameAnswer_member (P := contentPairing left right) (fun _ => id)
      (outline_of_sameButDecorators same) isTrimming_of_decorator
      (field_or_method_of_memberKind? (memberKind?_isSome_of_mem cls inside))
  obtain ⟨type, other, resolves, resolves', types⟩ := types_of_sameAnswer answers
  refine ⟨⟨name, a.node, decorator⟩, ?_, named, ?_⟩
  · rw [decoratedMember?, named, propertyDecorator?_eq_head?, only]
    rfl
  · simp only [memberProperty, entryWrite, read, entryProperty, hinted, hintType, resolves,
      resolves', Except.map]
    exact .ok ⟨rfl, restyled_assemble types options⟩

theorem map_fst_of_memberWrites {writes : List (String × ReactiveProperty)}
    (made : memberWrites settings syntactic left cls = .ok writes) :
    (writes.map Prod.fst).map some = (declarations cls).map (declaredName? left) := by
  have matched : List.Forall₂ (fun found member => declaredName? left member = some found.name)
      (decoratedMembers settings left cls) (declarations cls) := by
    rw [decoratedMembers_eq]
    refine forall₂_filterMap_left (List.forall₂_same.mpr fun member inside => ?_)
    obtain ⟨entry, -, told⟩ := exists_of_mem styles.entries inside
    obtain ⟨found, decorated, named, -⟩ := writes_restyled styles inside told
    exact ⟨found, decorated, named⟩
  rw [memberWrites_eq] at made
  rw [map_fst_of_writesOf made, namedMembers, List.map_map, List.map_map]
  exact map_eq_of_forall₂ matched fun _ _ named => named.symm

/-- Decorated members have the properties that the entries of their names give to the bare members,
in the same order. Only the origin tells the two styles apart. -/
theorem styles_agree (path path' : Option String) :
    ∃ map other, (properties settings syntactic left path cls).outcome = .ok map ∧
      (properties settings syntactic right path' cls').outcome = .ok other ∧
        map.keys.map some = (declarations cls).map (declaredName? left) ∧
          (∀ key property, map.get? key = some property → property.origin = .decorator) ∧
            PropertyMap.unnumbered other = map.mapValues fun property =>
              { property.unnumbered with origin := .staticBlock } := by
  have paired : List.Forall₂ (fun a entry => a ∈ declarations cls ∧
      restates settings left right a entry = true) (declarations cls) literal.items := by
    have aligned : Aligned (fun a entry => restates settings left right a entry = true)
      (fun _ => False) (declarations cls) literal.items := .of_forall₂ styles.entries
    exact aligned.mem.forall₂ fun _ h => h.2
  have matched : List.Forall₂ (fun found entry => EndAlike (fun _ _ => False) (SameKey Restyled)
      ((memberProperty settings syntactic left found).map (found.name, ·))
      (entryWrite settings syntactic right cls' entry))
      (decoratedMembers settings left cls) literal.items := by
    rw [decoratedMembers_eq]
    refine forall₂_filterMap_left (paired.imp fun a entry h => ?_)
    obtain ⟨found, decorated, -, ends⟩ := writes_restyled styles h.1 h.2
    exact ⟨found, decorated, ends⟩
  have static : staticWrites settings syntactic right cls' =
      literal.items.mapM (entryWrite settings syntactic right cls') := by
    obtain ⟨member, selected, object⟩ := Option.bind_eq_some_iff.mp styles.object
    simp only [staticWrites, selected, object]
  have writes : EndAlike (fun _ _ => False) (List.Forall₂ (SameKey Restyled))
      (memberWrites settings syntactic left cls) (staticWrites settings syntactic right cls') := by
    rw [static]
    exact EndAlike.mapM matched fun _ _ ends => ends
  obtain ⟨decorated, restated, first, second, same⟩ := writes.exists_ok
  have names := map_fst_of_memberWrites styles first
  -- no name is written twice, so the maps have the writes as entries, in their order
  have distinct : (decorated.map Prod.fst).Nodup := by
    have distinct := styles.distinct
    rw [← names] at distinct
    exact List.Nodup.of_map some distinct
  refine ⟨_, _, outcome_properties_of_writes settings left cls syntactic path (named_left styles)
    first (staticWrites_left styles syntactic),
    outcome_properties_of_writes settings right cls' syntactic path' (named_right styles)
      (memberWrites_right styles syntactic) second, ?_, ?_, ?_⟩
  · rw [List.append_nil, OrderedMap.keys_ofPairs, eraseDups_of_nodup distinct, names]
  · intro key property held
    rw [List.append_nil, OrderedMap.get?_ofPairs] at held
    obtain ⟨other, -, -, origin, -⟩ := exists_of_mem same (mem_of_lastValue? held)
    exact origin
  · rw [List.append_nil, List.nil_append, PropertyMap.unnumbered, OrderedMap.mapValues_ofPairs,
      OrderedMap.mapValues_ofPairs]
    refine congrArg _ (map_eq_of_forall₂ same fun x y h => ?_).symm
    exact Prod.ext h.1 h.2.2

end Classes

def decoratedSource : Source := .ofString
  "class A\x7b@property()a=1;@property(\x7breflect:true\x7d)get b():X\x7b\x7d\x7d"

def decoratedClass : Node := (Node.ofRows? [
  namedRow .classDeclaration 2 0 60 none,
  namedRow .typeIdentifier 0 6 7 (some .name),
  namedRow (.other "class_body") 3 7 60 (some .body),
  namedRow .publicFieldDefinition 3 8 22 none,
  namedRow .decorator 1 8 19 none,
  namedRow .callExpression 2 9 19 none,
  namedRow .identifier 0 9 17 (some .function),
  namedRow (.other "arguments") 0 17 19 (some .arguments),
  namedRow .propertyIdentifier 0 19 20 (some .name),
  namedRow .number 0 21 22 (some .value),
  namedRow .decorator 1 23 48 none,
  namedRow .callExpression 2 24 48 none,
  namedRow .identifier 0 24 32 (some .function),
  namedRow (.other "arguments") 1 32 48 (some .arguments),
  namedRow .object 1 33 47 none,
  namedRow .pair 2 34 46 none,
  namedRow .propertyIdentifier 0 34 41 (some .key),
  namedRow .trueLiteral 0 42 46 (some .value),
  namedRow .methodDefinition 4 48 59 none,
  ⟨.getWord, false, none, ⟨48, 51⟩, 0⟩,
  namedRow .propertyIdentifier 0 52 53 (some .name),
  namedRow (.other "type_annotation") 1 55 57 (some .returnType),
  namedRow .typeIdentifier 0 56 57 none,
  namedRow (.other "statement_block") 0 57 59 (some .body)]).getD default

def restatedSource : Source := .ofString
  ("class A\x7ba=1;static get properties()\x7breturn\x7ba:\x7b\x7d,b:\x7breflect:true\x7d\x7d\x7d"
    ++ "get b():X\x7b\x7dconstructor()\x7bthis.a=\"\"\x7d\x7d")

def restatedClass : Node := (Node.ofRows? [
  namedRow .classDeclaration 2 0 102 none,
  namedRow .typeIdentifier 0 6 7 (some .name),
  namedRow (.other "class_body") 4 7 102 (some .body),
  namedRow .publicFieldDefinition 2 8 11 none,
  namedRow .propertyIdentifier 0 8 9 (some .name),
  namedRow .number 0 10 11 (some .value),
  namedRow .methodDefinition 4 12 66 none,
  ⟨.staticWord, false, none, ⟨12, 18⟩, 0⟩,
  ⟨.getWord, false, none, ⟨19, 22⟩, 0⟩,
  namedRow .propertyIdentifier 0 23 33 (some .name),
  namedRow (.other "statement_block") 1 35 66 (some .body),
  namedRow .returnStatement 1 36 65 none,
  namedRow .object 2 42 65 none,
  namedRow .pair 2 43 47 none,
  namedRow .propertyIdentifier 0 43 44 (some .key),
  namedRow .object 0 45 47 (some .value),
  namedRow .pair 2 48 64 none,
  namedRow .propertyIdentifier 0 48 49 (some .key),
  namedRow .object 1 50 64 (some .value),
  namedRow .pair 2 51 63 none,
  namedRow .propertyIdentifier 0 51 58 (some .key),
  namedRow .trueLiteral 0 59 63 (some .value),
  namedRow .methodDefinition 4 66 77 none,
  ⟨.getWord, false, none, ⟨66, 69⟩, 0⟩,
  namedRow .propertyIdentifier 0 70 71 (some .name),
  namedRow (.other "type_annotation") 1 73 75 (some .returnType),
  namedRow .typeIdentifier 0 74 75 none,
  namedRow (.other "statement_block") 0 75 77 (some .body),
  namedRow .methodDefinition 2 77 101 none,
  namedRow .propertyIdentifier 0 77 88 (some .name),
  namedRow (.other "statement_block") 1 90 101 (some .body),
  namedRow .expressionStatement 1 91 100 none,
  namedRow .assignmentExpression 2 91 100 none,
  namedRow .memberExpression 2 91 97 (some .left),
  namedRow .thisWord 0 91 95 (some .object),
  namedRow .propertyIdentifier 0 96 97 (some .property),
  namedRow .stringLiteral 0 98 100 (some .right)]).getD default

/-- The constructor assigns a string to the field `a`, and yet its type is that of its initializer in
both styles. -/
theorem styles_agree_restated :
    let settings := Configuration.default.settings
    (∃ literal, TwoStyles settings decoratedSource restatedSource decoratedClass restatedClass
      literal) ∧
      ∃ map other,
        (properties settings syntactic decoratedSource none decoratedClass).outcome = .ok map ∧
          (properties settings syntactic restatedSource none restatedClass).outcome = .ok other ∧
            map.keys = ["a", "b"] ∧
              PropertyMap.unnumbered other = map.mapValues fun property =>
                { property.unnumbered with origin := .staticBlock } := by
  intro settings
  have checked : ((selectedStatic? settings restatedSource restatedClass).bind staticObject?).map
      (fun literal => decide (List.Forall₂ (fun member entry =>
        restates settings decoratedSource restatedSource member entry = true)
          (declarations decoratedClass) literal.items)) = some true := by decide +kernel
  obtain ⟨literal, object, verdict⟩ := Option.map_eq_some_iff.mp checked
  have styles : TwoStyles settings decoratedSource restatedSource decoratedClass restatedClass
      literal := by
    refine ⟨by decide +kernel, by decide +kernel, by decide +kernel, object, ?_⟩
    exact of_decide_eq_true verdict
  obtain ⟨map, other, first, second, keys, -, equal⟩ := styles_agree styles none none
  have names : (declarations decoratedClass).map (declaredName? decoratedSource) =
      ["a", "b"].map some := by decide +kernel
  refine ⟨⟨literal, styles⟩, map, other, first, second, ?_, equal⟩
  exact List.map_injective_iff.mpr (fun _ _ => Option.some.inj) (keys.trans names)

end ReactiveProps.Property
