import ReactiveProps.Proofs.OptionEntries

/-!
# Objects that give a key twice

An object literal is evaluated by writing its pairs from first to last, so its last pair with a key
gives the value. The static block is read in this way. A single option is looked up as the first
pair with its key, which is the same unless the key occurs again.
-/
namespace ReactiveProps.Property

open SyntaxTree Typing

/-- Every item of the object is a pair with a plain name as its key; `pairs` are the keys with their
values. -/
def IsRecord (source : Source) (object : Node) (pairs : List (String × Node)) : Prop :=
  List.Forall₂ (fun entry pair => HasKey source entry pair.1 ∧ entry.child? .value = some pair.2)
    object.items pairs

variable {source : Source} {object : Node} {pairs : List (String × Node)}

theorem hasKey_iff_of_hasKey {entry : Node} {name : String} (had : HasKey source entry name)
    (key : String) : HasKey source entry key ↔ name = key := by
  rw [← entryKey?_iff_hasKey, (entryKey?_iff_hasKey source entry name).mpr had, Option.some.injEq]

section Record

variable (record : IsRecord source object pairs)

include record

/-- A look-up stops at the first pair. -/
theorem objectValue?_of_isRecord (key : String) :
    objectValue? source object key = firstValue? pairs key := by
  unfold objectValue?
  unfold IsRecord at record
  generalize object.items = items at record
  induction record with
  | nil => rfl
  | @cons entry pair rest others head _ ih =>
    have read := (entryKey?_iff_hasKey source entry pair.1).mpr head.1
    rw [List.find?_cons, firstValue?_cons, read, ← ih]
    by_cases same : pair.1 = key
    · simp [same, head.2]
    · simp [same, beq_eq_false_iff_ne.mpr same]

theorem mem_keys_iff (key : String) :
    key ∈ pairs.map Prod.fst ↔ ∃ entry ∈ object.items, HasKey source entry key := by
  unfold IsRecord at record
  generalize object.items = items at record
  induction record with
  | nil => simp
  | cons head _ ih =>
    rw [List.map_cons, List.mem_cons, ih]
    simp [hasKey_iff_of_hasKey head.1, eq_comm]

theorem eq_of_isRecord {others : List (String × Node)} (recordToo : IsRecord source object others) :
    pairs = others := by
  refine Relator.RightUnique.forall₂ (fun entry pair other first second => ?_) record recordToo
  exact Prod.ext ((hasKey_iff_of_hasKey first.1 other.1).mp second.1)
    (Option.some.inj (first.2.symm.trans second.2))

end Record

/-- The objects that the static block accepts are records. -/
theorem isRecord_of_map_staticPair?
    (accepted : object.items.map (staticPair? source) = pairs.map some) :
    IsRecord source object pairs := by
  have read : List.Forall₂ Eq (object.items.map (staticPair? source)) (pairs.map some) :=
    accepted ▸ List.forall₂_same.mpr fun _ _ => rfl
  rw [List.forall₂_map_left_iff, List.forall₂_map_right_iff] at read
  refine read.imp fun entry pair found => ?_
  obtain ⟨isPair, key, value, -⟩ := (staticPair?_eq_some_iff source entry pair.1 pair.2).mp found
  exact ⟨⟨isPair, key⟩, value⟩

/-- The static block gives a name the value that its key has in the evaluated object. -/
theorem get?_of_isRecord (record : IsRecord source object pairs) {settings : Settings}
    {resolver : Resolver} {cls member : Node} {path : Option String} {map : PropertyMap}
    (selected : selectedStatic? settings source cls = some member)
    (holds : HoldsObject member object)
    (returned : (properties settings resolver source path cls).outcome = .ok map) {key : String}
    (listed : key ∈ pairs.map Prod.fst) :
    ∃ type, HintTyped resolver source (hint? settings source cls key) type ∧
      map.get? key = some
        (assemble source key type ((OrderedMap.ofPairs pairs).get? key) .staticBlock) := by
  obtain ⟨decorated, static, -, made, -⟩ :=
    writes_of_properties settings resolver source cls returned
  obtain ⟨-, literal⟩ := staticWrites_eq settings resolver source cls made
  obtain ⟨held, holdsToo, entries⟩ := literal member selected
  have sameObject : held = object :=
    Option.some.inj (holdsToo.symm.trans ((staticObject?_eq_some_iff member object).mpr holds))
  have samePairs := eq_of_isRecord record (isRecord_of_map_staticPair? (sameObject ▸ entries))
  rw [OrderedMap.get?_ofPairs]
  cases last : lastValue? pairs key with
  | none => exact absurd listed ((lastValue?_eq_none_iff pairs key).mp last)
  | some options =>
    exact get?_of_lastEntry settings resolver source cls returned (samePairs ▸ last)

/-- A look-up gives the value of the first pair with a key; evaluation and the static block give that
of the last. They agree on every key that does not occur again. -/
theorem lookups_agree_unless_repeated (source : Source) (object : Node)
    (pairs : List (String × Node)) (record : IsRecord source object pairs) (key : String) :
    objectValue? source object key = firstValue? pairs key ∧
    (OrderedMap.ofPairs pairs).get? key = lastValue? pairs key ∧
    (objectValue? source object key = none ↔ ∀ entry ∈ object.items, ¬ HasKey source entry key) ∧
    ((pairs.map Prod.fst).count key ≤ 1 →
      objectValue? source object key = (OrderedMap.ofPairs pairs).get? key) ∧
    ∀ settings resolver cls member path map, selectedStatic? settings source cls = some member →
      HoldsObject member object →
      (properties settings resolver source path cls).outcome = .ok map →
      key ∈ pairs.map Prod.fst →
        ∃ type, HintTyped resolver source (hint? settings source cls key) type ∧
          map.get? key = some
            (assemble source key type ((OrderedMap.ofPairs pairs).get? key) .staticBlock) ∧
          ((pairs.map Prod.fst).count key ≤ 1 → map.get? key = some
            (assemble source key type (objectValue? source object key) .staticBlock)) := by
  have first := objectValue?_of_isRecord record key
  have last := OrderedMap.get?_ofPairs pairs key
  have agree (once : (pairs.map Prod.fst).count key ≤ 1) :
      objectValue? source object key = (OrderedMap.ofPairs pairs).get? key := by
    rw [first, last, firstValue?_eq_lastValue? once]
  refine ⟨first, last, ?_, agree, ?_⟩
  · rw [first, firstValue?_eq_none_iff, mem_keys_iff record]
    push Not
    rfl
  · intro settings resolver cls member path map selected holds returned listed
    obtain ⟨type, typed, merged⟩ := get?_of_isRecord record selected holds returned listed
    exact ⟨type, typed, merged, fun once => by rw [merged, agree once]⟩

/-- The options of `b`, which has one entry, are found on both ways. -/
theorem lookups_agree_unless_repeated_twiceDeclared :
    ∃ member object pairs, selectedStatic? Configuration.default.settings twiceDeclaredSource
        twiceDeclared = some member ∧ HoldsObject member object ∧
      IsRecord twiceDeclaredSource object pairs ∧ pairs.map Prod.fst = ["a", "b", "a"] ∧
      objectValue? twiceDeclaredSource object "b" = (OrderedMap.ofPairs pairs).get? "b" ∧
      ∃ map type, (properties Configuration.default.settings syntactic twiceDeclaredSource none
          twiceDeclared).outcome = .ok map ∧
        map.get? "b" = some (assemble twiceDeclaredSource "b" type
          (objectValue? twiceDeclaredSource object "b") .staticBlock) := by
  have returns : (errorOf? (properties Configuration.default.settings syntactic
      twiceDeclaredSource none twiceDeclared).outcome).isNone = true := by decide +kernel
  obtain ⟨map, returned⟩ := (errorOf?_eq_none_iff _).mp (Option.isNone_iff_eq_none.mp returns)
  have declared : (selectedStatic? Configuration.default.settings twiceDeclaredSource
      twiceDeclared).isSome = true := by decide +kernel
  obtain ⟨member, selected⟩ := Option.isSome_iff_exists.mp declared
  obtain ⟨decorated, static, -, made, -⟩ := writes_of_properties _ _ _ _ returned
  obtain ⟨-, literal⟩ := staticWrites_eq _ _ _ _ made
  obtain ⟨object, held, accepted⟩ := literal member selected
  have holds := (staticObject?_eq_some_iff member object).mp held
  have record := isRecord_of_map_staticPair? accepted
  have keys : (staticEntries Configuration.default.settings twiceDeclaredSource
      twiceDeclared).map Prod.fst = ["a", "b", "a"] := by decide +kernel
  have once : ((staticEntries Configuration.default.settings twiceDeclaredSource
      twiceDeclared).map Prod.fst).count "b" ≤ 1 := by rw [keys]; decide
  obtain ⟨-, -, -, agree, merge⟩ := lookups_agree_unless_repeated _ object _ record "b"
  obtain ⟨type, -, -, merged⟩ := merge _ _ _ member _ map selected holds returned
    (by rw [keys]; decide)
  exact ⟨member, object, _, selected, holds, record, keys, agree once, map, type, returned,
    merged once⟩

def letterValue (id start : Nat) : Node :=
  ⟨id, .identifier, true, some .value, ⟨start, start + 1⟩, []⟩

def converterPair (id start : Nat) : Node :=
  ⟨id, .pair, true, none, ⟨start, start + 12⟩,
    [⟨id + 1, .propertyIdentifier, true, some .key, ⟨start, start + 9⟩, []⟩,
      letterValue (id + 2) (start + 11)]⟩

def twiceConvertedSource : Source := .ofString "const o = \x7bconverter: a, converter: b\x7d;"

def twiceConverted : Node :=
  ⟨0, .object, true, some .value, ⟨10, 38⟩, [converterPair 1 11, converterPair 4 25]⟩

/-- The evaluated object holds the second converter, and the look-up gives another. -/
theorem lookup_misses_last_pair :
    ∃ pairs last, IsRecord twiceConvertedSource twiceConverted pairs ∧
      (OrderedMap.ofPairs pairs).get? "converter" = some last ∧
      twiceConvertedSource.text last = "b" ∧
      objectValue? twiceConvertedSource twiceConverted "converter" ≠ some last := by
  have record : IsRecord twiceConvertedSource twiceConverted
      [("converter", letterValue 3 22), ("converter", letterValue 6 36)] := by
    refine .cons ⟨⟨rfl, _, rfl, rfl, ?_⟩, rfl⟩ (.cons ⟨⟨rfl, _, rfl, rfl, ?_⟩, rfl⟩ .nil)
    all_goals decide +kernel
  have found : objectValue? twiceConvertedSource twiceConverted "converter" =
      some (letterValue 3 22) := objectValue?_of_isRecord record "converter"
  have distinct : letterValue 3 22 ≠ letterValue 6 36 := fun same => absurd (congrArg Node.id same) (by decide)
  exact ⟨_, _, record, OrderedMap.get?_ofPairs _ _, by decide +kernel,
    fun same => distinct (Option.some.inj (found.symm.trans same))⟩

end ReactiveProps.Property
