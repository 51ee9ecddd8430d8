import ReactiveProps.Proofs.Content
import ReactiveProps.Proofs.Merge
import ReactiveProps.Proofs.PairedTypes

/-!
# Bodies of methods

Extraction looks into the body of two methods of a class at most: the first one that is called
`constructor`, and the selected static properties getter. Whatever stands in the other bodies, the
properties are the same. A static method that is called `constructor` can come first, and then its
assignments lend types to properties.
-/
namespace ReactiveProps.Property

open SyntaxTree Typing

variable (settings : Settings) (left right : Source)

/-- A method into which extraction does not look. -/
structure IdleMethod (source : Source) (cls member : Node) : Prop where
  method : member.kind = .methodDefinition
  unscanned : constructor? source cls ≠ some member
  unselected : selectedStatic? settings source cls ≠ some member

instance (node : Node) : Decidable node.IsBody := inferInstanceAs (Decidable (_ ∧ _))

/-- Methods that differ at most in the block of statements that they run. -/
def SameButBody (a b : Node) : Prop :=
  a.kind = b.kind ∧ a.named = b.named ∧
    List.Forall₂ (fun x y => sameContent left right x y = true ∨ x.IsBody ∧ y.IsBody)
      a.children b.children

instance (a b : Node) : Decidable (SameButBody left right a b) :=
  inferInstanceAs (Decidable (_ ∧ _ ∧ _))

/-- Children of two class bodies: the same content, or a method that may be edited and what became
of it. -/
def Edited (free : Node → Prop) (a b : Node) : Prop :=
  sameContent left right a b = true ∨ free a ∧ SameButBody left right a b

instance (free : Node → Prop) [DecidablePred free] (a b : Node) :
    Decidable (Edited left right free a b) := inferInstanceAs (Decidable (_ ∨ _ ∧ _))

def SameButBodiesOf (free : Node → Prop) (cls cls' : Node) : Prop :=
  Option.Rel (fun body body' => List.Forall₂ (Edited left right free) body.children body'.children)
    (cls.child? .body) (cls'.child? .body)

instance (free : Node → Prop) [DecidablePred free] (cls cls' : Node) :
    Decidable (SameButBodiesOf left right free cls cls') :=
  inferInstanceAs (Decidable (Option.Rel (fun body body' : Node =>
    List.Forall₂ (Edited left right free) body.children body'.children) _ _))

variable {settings left right}

theorem SameButBodiesOf.mono {free free' : Node → Prop} {cls cls' : Node}
    (wider : ∀ member, free member → free' member)
    (same : SameButBodiesOf left right free cls cls') :
    SameButBodiesOf left right free' cls cls' := by
  refine rel_mono same fun body body' matched => matched.imp ?_
  rintro a b (same | ⟨member, edited⟩)
  · exact .inl same
  · exact .inr ⟨wider a member, edited⟩

theorem outline_of_sameButBody {a b : Node} (same : SameButBody left right a b) :
    (contentPairing left right).Outline (contentPairing left right).gap a b := by
  obtain ⟨kind, named, children⟩ := same
  exact ⟨kind, named, .of_forall₂ children⟩

section Classes

variable {cls cls' : Node}

abbrev EditedIdle (settings : Settings) (left right : Source) (cls : Node) : Node → Node → Prop :=
  Edited left right (IdleMethod settings left cls)

theorem covers_edited : (contentPairing left right).Covers (EditedIdle settings left right cls) where
  of_pairs := .inl
  outline := by
    rintro a b (same | ⟨-, edited⟩)
    · exact (contentPairing left right).outline same
    · exact outline_of_sameButBody edited
  decorator := by
    rintro a b (same | ⟨idle, -⟩) decorator
    · exact same
    · rw [idle.method] at decorator
      cases decorator

theorem sameContent_of_scanned {a b : Node} (edited : EditedIdle settings left right cls a b)
    (scanned : constructor? left cls = some a) : sameContent left right a b = true := by
  rcases edited with same | ⟨idle, -⟩
  · exact same
  · exact absurd scanned idle.unscanned

theorem sameContent_of_selected {a b : Node} (edited : EditedIdle settings left right cls a b)
    (selected : selectedStatic? settings left cls = some a) :
    sameContent left right a b = true := by
  rcases edited with same | ⟨idle, -⟩
  · exact same
  · exact absurd selected idle.unselected

theorem classesAlike_of_idleBodies
    (same : SameButBodiesOf left right (IdleMethod settings left cls) cls cls') :
    ClassesAlike (contentPairing left right) (EditedIdle settings left right cls) (fun _ _ => True)
      settings cls cls' := by
  have covers : (contentPairing left right).Covers (EditedIdle settings left right cls) :=
    covers_edited
  have bodies : Option.Rel (fun body body' => Aligned (EditedIdle settings left right cls)
      (contentPairing left right).gap body.children body'.children) (cls.child? .body)
      (cls'.child? .body) := rel_mono same fun _ _ matched => .of_forall₂ matched
  have members : List.Forall₂ ((contentPairing left right).SameSite
      (EditedIdle settings left right cls) fun _ _ => True) cls.classMembers cls'.classMembers :=
    Pairing.forall₂_classMembers covers (fun _ _ => trivial) bodies
  refine ⟨members, ?_, ?_⟩
  · exact rel_of_mem (matched_selectedStatic? settings covers members)
      fun _ _ selected edited => sameContent_of_selected edited selected
  · exact rel_of_mem (matched_constructor? covers members)
      fun _ _ scanned edited => sameContent_of_scanned edited scanned

theorem sameAnswer_edited {M : Node → Node → Prop} {a b : Node}
    (edited : EditedIdle settings left right cls a b) :
    SameAnswer M (syntactic left a) (syntactic right b) := by
  rcases edited with same | ⟨idle, same⟩
  · exact sameAnswer_paired (P := contentPairing left right) (fun _ => id) same
  · exact sameAnswer_member (fun _ => id) (outline_of_sameButBody same) nofun (.inr idle.method)

/-- Classes that differ in the bodies of idle methods only have the same properties, or extraction
fails with the same error on what is the same node. -/
theorem properties_ignore_idle_bodies (path : Option String)
    (same : SameButBodiesOf left right (IdleMethod settings left cls) cls cls') :
    EndAlike (FaultAlike (EditedIdle settings left right cls))
      (fun map other => PropertyMap.unnumbered map = PropertyMap.unnumbered other)
      (properties settings syntactic left path cls).outcome
      (properties settings syntactic right path cls').outcome :=
  outcome_properties_alike settings syntactic covers_edited
    (classesAlike_of_idleBodies same) (fun edited => sameAnswer_edited edited) path path

end Classes

def typeText (map : PropertyMap) (key : String) : Option String :=
  (map.get? key).bind fun property => property.type.map (·.text)

theorem typeText_eq_of_unnumbered {map other : PropertyMap}
    (equal : PropertyMap.unnumbered map = PropertyMap.unnumbered other) (key : String) :
    typeText map key = typeText other key := by
  have texts (map : PropertyMap) : typeText map key =
      ((PropertyMap.unnumbered map).get? key).bind fun property =>
        property.type.map (·.text) := by
    rw [PropertyMap.unnumbered, OrderedMap.get?_mapValues, Option.bind_map]
    refine Option.bind_congr fun property _ => ?_
    simp only [Function.comp_apply, ReactiveProperty.unnumbered, Option.map_map]
    rfl
  rw [texts, texts, equal]

/-- A body with an assignment to the field `a`, or one of the same length with nothing in it. -/
def bodyText (assigns : Bool) : String :=
  if assigns then "\x7bthis.a=1\x7d" else "\x7b        \x7d"

def bodyRows (assigns : Bool) (start : Nat) : List Row :=
  if assigns then [
    namedRow (.other "statement_block") 1 start (start + 10) (some .body),
    namedRow .expressionStatement 1 (start + 1) (start + 9) none,
    namedRow .assignmentExpression 2 (start + 1) (start + 9) none,
    namedRow .memberExpression 2 (start + 1) (start + 7) (some .left),
    namedRow .thisWord 0 (start + 1) (start + 5) (some .object),
    namedRow .propertyIdentifier 0 (start + 6) (start + 7) (some .property),
    namedRow .number 0 (start + 8) (start + 9) (some .right)]
  else [namedRow (.other "statement_block") 0 start (start + 10) (some .body)]

def twoMethodsSource (first second : Bool) : Source := .ofString
  ("class A\x7bstatic constructor()" ++ bodyText first ++ "m()" ++ bodyText second
    ++ "static properties=\x7ba:\x7b\x7d\x7d\x7d")

def twoMethods (first second : Bool) : Node := (Node.ofRows? ([
  namedRow .classDeclaration 2 0 76 none,
  namedRow .typeIdentifier 0 6 7 (some .name),
  namedRow (.other "class_body") 3 7 76 (some .body),
  namedRow .methodDefinition 3 8 38 none,
  ⟨.staticWord, false, none, ⟨8, 14⟩, 0⟩,
  namedRow .propertyIdentifier 0 15 26 (some .name)] ++ bodyRows first 28 ++ [
  namedRow .methodDefinition 2 38 51 none,
  namedRow .propertyIdentifier 0 38 39 (some .name)] ++ bodyRows second 41 ++ [
  namedRow .publicFieldDefinition 3 51 75 none,
  ⟨.staticWord, false, none, ⟨51, 57⟩, 0⟩,
  namedRow .propertyIdentifier 0 58 68 (some .name),
  namedRow .object 1 69 75 (some .value),
  namedRow .pair 2 70 74 none,
  namedRow .propertyIdentifier 0 70 71 (some .key),
  namedRow .object 0 72 74 (some .value)])).getD default

theorem idleMethod_of_ids {source : Source} {cls member : Node}
    (method : member.kind = .methodDefinition)
    (unscanned : (constructor? source cls).map (·.id) ≠ some member.id)
    (unselected : (selectedStatic? settings source cls).map (·.id) ≠ some member.id) :
    IdleMethod settings source cls member where
  method := method
  unscanned := by
    intro scanned
    rw [scanned] at unscanned
    exact unscanned rfl
  unselected := by
    intro selected
    rw [selected] at unselected
    exact unselected rfl

/-- The body of `m` is idle: the type of `a` is that of the assignment in the other method, whatever
`m` does. -/
theorem properties_ignore_idle_bodies_twoMethods :
    let settings := Configuration.default.settings
    let source := twoMethodsSource true false
    let cls := twoMethods true false
    SameButBodiesOf source (twoMethodsSource true true) (IdleMethod settings source cls) cls
        (twoMethods true true) ∧
      ∃ map other, (properties settings syntactic source none cls).outcome = .ok map ∧
        (properties settings syntactic (twoMethodsSource true true) none
            (twoMethods true true)).outcome = .ok other ∧
          PropertyMap.unnumbered map = PropertyMap.unnumbered other ∧
            typeText map "a" = some "number" := by
  intro settings source cls
  -- nodes have no decidable equality, but their numbers tell them apart
  have checked : SameButBodiesOf source (twoMethodsSource true true) (fun member =>
      member.kind = .methodDefinition ∧
        (constructor? source cls).map (·.id) ≠ some member.id ∧
          (selectedStatic? settings source cls).map (·.id) ≠ some member.id) cls
      (twoMethods true true) := by decide +kernel
  have same : SameButBodiesOf source (twoMethodsSource true true)
      (IdleMethod settings source cls) cls (twoMethods true true) :=
    checked.mono fun member h => idleMethod_of_ids h.1 h.2.1 h.2.2
  have alike := properties_ignore_idle_bodies none same
  have typed : (properties settings syntactic source none cls).outcome.toOption.map
      (typeText · "a") = some (some "number") := by decide +kernel
  obtain ⟨map, kept, type⟩ := Option.map_eq_some_iff.mp typed
  have returned := toOption_eq_some_iff.mp kept
  rw [returned] at alike
  refine ⟨same, map, ?_⟩
  generalize (properties settings syntactic (twoMethodsSource true true) none
    (twoMethods true true)).outcome = ends at alike ⊢
  cases alike with
  | ok equal => exact ⟨_, returned, rfl, equal, type⟩

/-- The two classes differ in the body of a static method only, and yet `a` has a type in one of
them and none in the other: the static method is taken for the constructor. -/
theorem static_method_lends_type :
    let settings := Configuration.default.settings
    let source := twoMethodsSource true false
    let cls := twoMethods true false
    SameButBodiesOf source (twoMethodsSource false false) (fun member =>
        member.kind = .methodDefinition ∧ member.isStatic = true ∧
          selectedStatic? settings source cls ≠ some member) cls (twoMethods false false) ∧
      ∀ M, ¬ EndAlike (FaultAlike M)
        (fun map other => PropertyMap.unnumbered map = PropertyMap.unnumbered other)
        (properties settings syntactic source none cls).outcome
        (properties settings syntactic (twoMethodsSource false false) none
          (twoMethods false false)).outcome := by
  intro settings source cls
  have checked : SameButBodiesOf source (twoMethodsSource false false) (fun member =>
      member.kind = .methodDefinition ∧ member.isStatic = true ∧
        (selectedStatic? settings source cls).map (·.id) ≠ some member.id) cls
      (twoMethods false false) := by decide +kernel
  have typed : (properties settings syntactic source none cls).outcome.toOption.map
      (typeText · "a") = some (some "number") := by decide +kernel
  have untyped : (properties settings syntactic (twoMethodsSource false false) none
      (twoMethods false false)).outcome.toOption.map (typeText · "a") = some none := by
    decide +kernel
  constructor
  · refine checked.mono fun member h => ⟨h.1, h.2.1, fun selected => h.2.2 ?_⟩
    rw [selected, Option.map_some]
  · intro M alike
    obtain ⟨map, kept, type⟩ := Option.map_eq_some_iff.mp typed
    obtain ⟨other, kept', none⟩ := Option.map_eq_some_iff.mp untyped
    rw [toOption_eq_some_iff.mp kept, toOption_eq_some_iff.mp kept'] at alike
    cases alike with
    | ok equal =>
      rw [typeText_eq_of_unnumbered equal, none] at type
      cases type

end ReactiveProps.Property
