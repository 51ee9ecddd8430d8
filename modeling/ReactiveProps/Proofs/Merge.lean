import ReactiveProps.Proofs.Extraction
import ReactiveProps.SyntaxTree.Listing

/-!
# How declarations merge

The map of a class has the names of its decorated members and of the entries of its static block, in
order of first occurrence. A name belongs to the last entry that has it, else to the last decorated
member.
-/
namespace ReactiveProps.Property

open SyntaxTree Typing

section Writes

variable {ε α β κ : Type} {f : κ → α → Except ε β}

/-- Makes a write to the key of every pair, from first to last. -/
def writesOf (f : κ → α → Except ε β) (pairs : List (κ × α)) : Except ε (List (κ × β)) :=
  pairs.mapM fun pair => (f pair.1 pair.2).map (pair.1, ·)

theorem writesOf_cons_eq_ok {pair : κ × α} {rest : List (κ × α)} {writes : List (κ × β)}
    (made : writesOf f (pair :: rest) = .ok writes) :
    ∃ value others, f pair.1 pair.2 = .ok value ∧ writesOf f rest = .ok others ∧
      writes = (pair.1, value) :: others := by
  unfold writesOf at made ⊢
  rw [List.mapM_cons] at made
  cases first : f pair.1 pair.2 with
  | error error =>
    rw [first] at made
    cases made
  | ok value =>
    cases later : rest.mapM fun pair => (f pair.1 pair.2).map (pair.1, ·) with
    | error error =>
      rw [first, later] at made
      cases made
    | ok others =>
      rw [first, later] at made
      cases made
      exact ⟨value, others, rfl, rfl, rfl⟩

theorem map_fst_of_writesOf {pairs : List (κ × α)} {writes : List (κ × β)}
    (made : writesOf f pairs = .ok writes) : writes.map Prod.fst = pairs.map Prod.fst := by
  induction pairs generalizing writes with
  | nil =>
    cases made
    rfl
  | cons pair rest ih =>
    obtain ⟨value, others, -, later, rfl⟩ := writesOf_cons_eq_ok made
    rw [List.map_cons, List.map_cons, ih later]

/-- The last write to a key is made from the last pair with that key. -/
theorem lastValue?_of_writesOf [DecidableEq κ] {pairs : List (κ × α)} {writes : List (κ × β)}
    (made : writesOf f pairs = .ok writes) {key : κ} {value : α}
    (last : lastValue? pairs key = some value) :
    ∃ write, f key value = .ok write ∧ lastValue? writes key = some write := by
  induction pairs generalizing writes with
  | nil => simp at last
  | cons pair rest ih =>
    obtain ⟨write, others, first, later, rfl⟩ := writesOf_cons_eq_ok made
    rw [lastValue?_cons] at last
    cases found : lastValue? rest key with
    | some other =>
      rw [found, Option.some_or, Option.some.injEq] at last
      subst last
      obtain ⟨result, done, kept⟩ := ih later found
      exact ⟨result, done, by rw [lastValue?_cons, kept, Option.some_or]⟩
    | none =>
      have absent : lastValue? others key = none := by
        rw [lastValue?_eq_none_iff, map_fst_of_writesOf later, ← lastValue?_eq_none_iff]
        exact found
      rw [found, Option.none_or] at last
      obtain ⟨rfl, same⟩ := Option.ite_none_right_eq_some.mp last
      cases same
      exact ⟨write, first, by rw [lastValue?_cons, absent]; simp⟩

end Writes

variable (settings : Settings) (resolver : Resolver) (source : Source) (cls : Node)

def namedMembers : List (String × DecoratedMember) :=
  (decoratedMembers settings source cls).map fun found => (found.name, found)

def staticEntries : List (String × Node) :=
  match (selectedStatic? settings source cls).bind staticObject? with
  | some object => object.items.filterMap (staticPair? source)
  | none => []

theorem memberWrites_eq :
    memberWrites settings resolver source cls =
      writesOf (fun _ found => memberProperty settings resolver source found)
        (namedMembers settings source cls) := by
  simp [memberWrites, writesOf, namedMembers, Function.comp_def]

/-- Entries that are all written have all been read as a name with options. -/
theorem entryWrites_eq {entries : List Node} {writes : List (String × ReactiveProperty)}
    (made : entries.mapM (entryWrite settings resolver source cls) = .ok writes) :
    entries.map (staticPair? source) = (entries.filterMap (staticPair? source)).map some ∧
      writesOf (entryProperty settings resolver source cls)
        (entries.filterMap (staticPair? source)) = .ok writes := by
  induction entries generalizing writes with
  | nil => exact ⟨rfl, made⟩
  | cons entry rest ih =>
    rw [List.mapM_cons, entryWrite] at made
    cases read : staticPair? source entry with
    | none =>
      rw [read] at made
      cases made
    | some found =>
      obtain ⟨name, options⟩ := found
      rw [read] at made
      cases first : entryProperty settings resolver source cls name options with
      | error error =>
        simp only [first] at made
        cases made
      | ok property =>
        cases later : rest.mapM (entryWrite settings resolver source cls) with
        | error error =>
          simp only [first, later] at made
          cases made
        | ok others =>
          simp only [first, later] at made
          cases made
          obtain ⟨all, done⟩ := ih later
          rw [writesOf] at done
          refine ⟨by simp [read, all], ?_⟩
          rw [List.filterMap_cons, read, writesOf, List.mapM_cons, first, done]
          rfl

/-- The static block that counts has an object, and each item of the object is an entry. -/
theorem staticWrites_eq {writes : List (String × ReactiveProperty)}
    (made : staticWrites settings resolver source cls = .ok writes) :
    writesOf (entryProperty settings resolver source cls) (staticEntries settings source cls) =
        .ok writes ∧
      ∀ member, selectedStatic? settings source cls = some member →
        ∃ object, staticObject? member = some object ∧
          object.items.map (staticPair? source) =
            (staticEntries settings source cls).map some := by
  unfold staticWrites at made
  unfold staticEntries
  cases selected : selectedStatic? settings source cls with
  | none =>
    rw [selected] at made
    exact ⟨made, by simp⟩
  | some member =>
    rw [selected] at made
    cases held : staticObject? member with
    | none =>
      simp only [held] at made
      cases made
    | some object =>
      simp only [held] at made
      obtain ⟨all, done⟩ := entryWrites_eq settings resolver source cls made
      rw [Option.bind_some, held]
      refine ⟨done, ?_⟩
      rintro _ ⟨⟩
      exact ⟨object, held, all⟩

/-- The type of an entry with the given hint: what the resolver answers for the hint, none without
a hint. -/
def HintTyped (hint : Option Node) (type : Option TypeDescriptor) : Prop :=
  match hint with
  | none => type = none
  | some hint => ∃ answer, (resolver source hint).outcome = .ok answer ∧ type = some answer

theorem hintTyped_of_hintType {hint : Option Node} {type : Option TypeDescriptor}
    (typed : hintType resolver source hint = .ok type) : HintTyped resolver source hint type := by
  cases hint with
  | none =>
    cases typed
    rfl
  | some hint =>
    obtain ⟨answer, answered, rfl⟩ := exists_of_map_eq_ok typed
    exact ⟨answer, (outcome_resolveType_eq_ok_iff resolver source hint answer).mp answered, rfl⟩

theorem writes_of_properties {path : Option String} {map : PropertyMap}
    (returned : (properties settings resolver source path cls).outcome = .ok map) :
    ∃ decorated static, memberWrites settings resolver source cls = .ok decorated ∧
      staticWrites settings resolver source cls = .ok static ∧
        map = .ofPairs (decorated ++ static) := by
  rw [outcome_properties] at returned
  cases unnamed : cls.classMembers.find? isUnnamed with
  | some member =>
    rw [unnamed] at returned
    cases returned
  | none =>
    rw [unnamed] at returned
    cases members : memberWrites settings resolver source cls with
    | error error =>
      rw [members] at returned
      cases returned
    | ok decorated =>
      rw [members] at returned
      obtain ⟨static, entries, merged⟩ := exists_of_map_eq_ok returned
      exact ⟨decorated, static, rfl, entries, merged.symm⟩

theorem name_of_lastMember {key : String} {found : DecoratedMember}
    (last : lastValue? (namedMembers settings source cls) key = some found) :
    found.name = key := by
  obtain ⟨member, -, same⟩ := List.mem_map.mp (mem_of_lastValue? last)
  cases same
  rfl

/-- A name of the static block has the options of its last entry. -/
theorem get?_of_lastEntry {path : Option String} {map : PropertyMap}
    (returned : (properties settings resolver source path cls).outcome = .ok map) {key : String}
    {options : Node} (last : lastValue? (staticEntries settings source cls) key = some options) :
    ∃ type, HintTyped resolver source (hint? settings source cls key) type ∧
      map.get? key = some (assemble source key type (some options) .staticBlock) := by
  obtain ⟨decorated, static, -, made, rfl⟩ :=
    writes_of_properties settings resolver source cls returned
  obtain ⟨made, -⟩ := staticWrites_eq settings resolver source cls made
  obtain ⟨property, written, kept⟩ := lastValue?_of_writesOf made last
  obtain ⟨type, typed, rfl⟩ := exists_of_map_eq_ok written
  refine ⟨type, hintTyped_of_hintType resolver source typed, ?_⟩
  rw [OrderedMap.get?_ofPairs, lastValue?_append, kept, Option.some_or]

theorem properties_merge (path : Option String) (map : PropertyMap)
    (returned : (properties settings resolver source path cls).outcome = .ok map) :
    let members := namedMembers settings source cls
    let entries := staticEntries settings source cls
    map.keys = (members.map Prod.fst ++ entries.map Prod.fst).eraseDups ∧
      (∀ key options, lastValue? entries key = some options →
        ∃ type, HintTyped resolver source (hint? settings source cls key) type ∧
          map.get? key = some (assemble source key type (some options) .staticBlock)) ∧
      (∀ key found, lastValue? entries key = none → lastValue? members key = some found →
        ∃ type, (resolver source found.member).outcome = .ok type ∧
          map.get? key = some (assemble source key (some type)
            (decoratorObject? settings source found.decorator) .decorator)) ∧
      (∀ key, lastValue? entries key = none → lastValue? members key = none →
        map.get? key = none) ∧
      (∀ key property, map.get? key = some property → property.name = key) ∧
      ∀ member, selectedStatic? settings source cls = some member →
        ∃ object, staticObject? member = some object ∧
          object.items.map (staticPair? source) = entries.map some := by
  intro members entries
  have fromEntry : ∀ key options, lastValue? entries key = some options →
      ∃ type, HintTyped resolver source (hint? settings source cls key) type ∧
        map.get? key = some (assemble source key type (some options) .staticBlock) :=
    fun _ _ last => get?_of_lastEntry settings resolver source cls returned last
  obtain ⟨decorated, static, madeMembers, madeEntries, rfl⟩ :=
    writes_of_properties settings resolver source cls returned
  rw [memberWrites_eq] at madeMembers
  obtain ⟨madeEntries, literal⟩ := staticWrites_eq settings resolver source cls madeEntries
  have memberNames := map_fst_of_writesOf madeMembers
  have entryNames := map_fst_of_writesOf madeEntries
  have noEntry : ∀ key, lastValue? entries key = none → lastValue? static key = none := by
    intro key absent
    rwa [lastValue?_eq_none_iff, entryNames, ← lastValue?_eq_none_iff]
  have fromMember : ∀ key found, lastValue? entries key = none →
      lastValue? members key = some found →
        ∃ type, (resolver source found.member).outcome = .ok type ∧
          (OrderedMap.ofPairs (decorated ++ static)).get? key = some (assemble source key
            (some type) (decoratorObject? settings source found.decorator) .decorator) := by
    intro key found absent last
    obtain ⟨property, made, kept⟩ := lastValue?_of_writesOf madeMembers last
    obtain ⟨type, typed, rfl⟩ := exists_of_map_eq_ok made
    refine ⟨type, (outcome_resolveType_eq_ok_iff _ _ _ _).mp typed, ?_⟩
    rw [OrderedMap.get?_ofPairs, lastValue?_append, noEntry key absent, Option.none_or, kept,
      name_of_lastMember settings source cls last]
  have fromNothing : ∀ key, lastValue? entries key = none → lastValue? members key = none →
      (OrderedMap.ofPairs (decorated ++ static)).get? key = none := by
    intro key noStatic noMember
    have noDecorated : lastValue? decorated key = none := by
      rwa [lastValue?_eq_none_iff, memberNames, ← lastValue?_eq_none_iff]
    rw [OrderedMap.get?_ofPairs, lastValue?_append, noEntry key noStatic, noDecorated,
      Option.none_or]
  refine ⟨?_, fromEntry, fromMember, fromNothing, ?_, literal⟩
  · rw [OrderedMap.keys_ofPairs, List.map_append, memberNames, entryNames]
  · intro key property held
    cases lastEntry : lastValue? entries key with
    | some options =>
      obtain ⟨type, -, made⟩ := fromEntry key options lastEntry
      cases held.symm.trans made
      rfl
    | none =>
      cases lastMember : lastValue? members key with
      | some found =>
        obtain ⟨type, -, made⟩ := fromMember key found lastEntry lastMember
        cases held.symm.trans made
        rfl
      | none => cases held.symm.trans (fromNothing key lastEntry lastMember)

def twiceDeclaredSource : Source := .ofString
  ("class A extends LitElement\x7b@property() b=1;static properties=\x7b"
    ++ "a:\x7b\x7d,b:\x7breflect:true\x7d,a:\x7btype:X\x7d\x7d;a=[]\x7d")

def namedRow (kind : Kind) (arity start stop : Nat) (field : Option Field) : Row :=
  ⟨kind, true, field, ⟨start, stop⟩, arity⟩

def twiceDeclared : Node := (Node.ofRows? [
  namedRow .classDeclaration 3 0 101 none,
  namedRow .typeIdentifier 0 6 7 (some .name),
  namedRow .classHeritage 1 8 26 none,
  namedRow .extendsClause 1 8 26 none,
  namedRow .identifier 0 16 26 (some .value),
  namedRow (.other "class_body") 3 26 101 (some .body),
  namedRow .publicFieldDefinition 3 27 42 none,
  namedRow .decorator 1 27 38 none,
  namedRow .callExpression 2 28 38 none,
  namedRow .identifier 0 28 36 (some .function),
  namedRow (.other "arguments") 0 36 38 (some .arguments),
  namedRow .propertyIdentifier 0 39 40 (some .name),
  namedRow .number 0 41 42 (some .value),
  namedRow .publicFieldDefinition 3 43 95 none,
  ⟨.staticWord, false, none, ⟨43, 49⟩, 0⟩,
  namedRow .propertyIdentifier 0 50 60 (some .name),
  namedRow .object 3 61 95 (some .value),
  namedRow .pair 2 62 66 none,
  namedRow .propertyIdentifier 0 62 63 (some .key),
  namedRow .object 0 64 66 (some .value),
  namedRow .pair 2 67 83 none,
  namedRow .propertyIdentifier 0 67 68 (some .key),
  namedRow .object 1 69 83 (some .value),
  namedRow .pair 2 70 82 none,
  namedRow .propertyIdentifier 0 70 77 (some .key),
  namedRow .trueLiteral 0 78 82 (some .value),
  namedRow .pair 2 84 94 none,
  namedRow .propertyIdentifier 0 84 85 (some .key),
  namedRow .object 1 86 94 (some .value),
  namedRow .pair 2 87 93 none,
  namedRow .propertyIdentifier 0 87 91 (some .key),
  namedRow .identifier 0 92 93 (some .value),
  namedRow .publicFieldDefinition 2 96 100 none,
  namedRow .propertyIdentifier 0 96 97 (some .name),
  namedRow .array 0 98 100 (some .value)]).getD default

/-- `b` stands first because it is decorated, and `a` has the options of its second entry. -/
theorem properties_merge_twiceDeclared :
    let settings := Configuration.default.settings
    ∃ map, (properties settings syntactic twiceDeclaredSource none twiceDeclared).outcome =
        .ok map ∧ map.keys = ["b", "a"] ∧
      ∃ options, twiceDeclaredSource.text options = "\x7btype:X\x7d" ∧
        ∃ type, HintTyped syntactic twiceDeclaredSource
            (hint? settings twiceDeclaredSource twiceDeclared "a") type ∧
          map.get? "a" = some (assemble twiceDeclaredSource "a" type (some options)
            .staticBlock) := by
  intro settings
  have returns : (errorOf? (properties settings syntactic twiceDeclaredSource none
      twiceDeclared).outcome).isNone = true := by decide +kernel
  obtain ⟨map, returned⟩ := (errorOf?_eq_none_iff _).mp (Option.isNone_iff_eq_none.mp returns)
  obtain ⟨keys, fromEntry, -⟩ := properties_merge settings syntactic twiceDeclaredSource
    twiceDeclared none map returned
  have second : (lastValue? (staticEntries settings twiceDeclaredSource twiceDeclared) "a").map
      twiceDeclaredSource.text = some "\x7btype:X\x7d" := by decide +kernel
  obtain ⟨options, last, text⟩ := Option.map_eq_some_iff.mp second
  exact ⟨map, returned, keys.trans (by decide +kernel), options, text,
    fromEntry "a" options last⟩

end ReactiveProps.Property
