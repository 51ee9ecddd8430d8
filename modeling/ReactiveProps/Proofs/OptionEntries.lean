import Mathlib.Data.List.Nodup
import ReactiveProps.Proofs.Content
import ReactiveProps.Proofs.Merge
import ReactiveProps.Proofs.PairedReadings
import ReactiveProps.Proofs.Rejection
import ReactiveProps.Proofs.Spots

/-!
# Which entries of an options object count

Of an options object only the pairs count whose key is one of four plain names. Each option is read
off the value of its own key, so the order of the entries shows only if a key occurs twice.
-/
namespace ReactiveProps.Property

open SyntaxTree

def HasKey (source : Source) (entry : Node) (key : String) : Prop :=
  entry.kind = .pair ∧ ∃ label, entry.child? .key = some label ∧ label.kind.isPlainName = true ∧
    source.text label = key

theorem entryKey?_iff_hasKey (source : Source) (entry : Node) (key : String) :
    entryKey? source entry = some key ↔ HasKey source entry key :=
  entryKey?_eq_some_iff source entry key

instance (source : Source) (entry : Node) (key : String) : Decidable (HasKey source entry key) :=
  decidable_of_iff _ (entryKey?_iff_hasKey source entry key)

def optionKeys : List String := ["attribute", "type", "reflect", "converter"]

/-- A child of an options object that is no entry or does not give an option. -/
def IsIdle (source : Source) (child : Node) : Prop :=
  child.isItem = true → ∀ key ∈ optionKeys, ¬ HasKey source child key

instance (source : Source) : DecidablePred (IsIdle source) := fun child =>
  inferInstanceAs (Decidable (child.isItem = true → ∀ key ∈ optionKeys, ¬ HasKey source child key))

/-- No two entries have the same plain name as their key. -/
def DistinctKeys (source : Source) (object : Node) : Prop :=
  object.items.Pairwise fun entry later =>
    ∀ key, HasKey source entry key → ¬ HasKey source later key

theorem distinctKeys_iff (source : Source) (object : Node) :
    DistinctKeys source object ↔ (object.items.filterMap (entryKey? source)).Nodup := by
  simp only [DistinctKeys, List.Nodup, List.pairwise_filterMap, entryKey?_iff_hasKey]
  refine List.Pairwise.iff fun entry later => ⟨?_, ?_⟩
  · rintro distinct key had key' hadToo rfl
    exact distinct key had hadToo
  · exact fun distinct key had hadToo => distinct key had key hadToo rfl

instance (source : Source) (object : Node) : Decidable (DistinctKeys source object) :=
  decidable_of_iff _ (distinctKeys_iff source object).symm

/-- The options are the same, but for a converter that is only related. -/
structure SameOptions (R : Node → Node → Prop) (options others : Options) : Prop where
  attributeName : options.attributeName = others.attributeName
  typeOption : options.typeOption = others.typeOption
  reflect : options.reflect = others.reflect
  converter : Option.Rel R options.converter others.converter

theorem SameOptions.eq {options others : Options} (same : SameOptions Eq options others) :
    options = others := by
  obtain ⟨attributeName, typeOption, reflect, converter⟩ := options
  obtain ⟨attributeName', typeOption', reflect', converter'⟩ := others
  obtain ⟨rfl, rfl, rfl, converters⟩ := same
  cases converters with
  | none => rfl
  | some same => rw [same]

section Search

variable {source : Source} {object : Node} {key : String}

theorem length_filter_entryKey? (distinct : DistinctKeys source object) :
    (object.items.filter fun entry => entryKey? source entry == some key).length ≤ 1 := by
  rw [← List.countP_eq_length_filter, ← List.count_filterMap]
  exact List.nodup_iff_count_le_one.mp ((distinctKeys_iff source object).mp distinct) key

/-- A look-up of an option passes by all idle children. -/
theorem objectValue?_of_kept (known : key ∈ optionKeys) {kept : List Node}
    (fewer : Aligned Eq (IsIdle source) object.children kept) :
    objectValue? source object key =
      ((kept.filter Node.isItem).find? fun entry => entryKey? source entry == some key).bind
        (·.child? .value) := by
  rw [objectValue?, Node.items, List.find?_filter, List.find?_filter]
  refine congrArg (Option.bind · (·.child? .value)) (fewer.find?_eq fun child idle => ?_)
  rw [decide_eq_false_iff_not, not_and, beq_iff_eq, entryKey?_iff_hasKey]
  exact fun item => idle item key known

end Search

section Paired

variable {left right : Source} (P : Pairing left right) {object other : Node} {key : String}

/-- Idle children may come and go in both objects. -/
theorem sameValue_of_kept (known : key ∈ optionKeys) {kept kept' : List Node}
    (fewer : Aligned Eq (IsIdle left) object.children kept)
    (fewerToo : Aligned Eq (IsIdle right) other.children kept')
    (matched : List.Forall₂ P.pairs kept kept') : SameValue P (some object) (some other) key := by
  change Option.Rel P.pairs (objectValue? left object key) (objectValue? right other key)
  have aligned : Aligned P.pairs (fun _ => False) kept kept' := .of_forall₂ matched
  have items := aligned.forall₂_filter (p := Node.isItem) (q := Node.isItem)
    (fun _ _ => P.isItem_eq) fun _ => False.elim
  rw [objectValue?_of_kept known fewer, objectValue?_of_kept known fewerToo]
  exact rel_value_of_matched P (items.imp fun _ _ same => same.1) key

/-- Entries with keys of their own may stand in any order. -/
theorem sameValue_of_perm (distinct : DistinctKeys left object) {reordered : List Node}
    (perm : object.items.Perm reordered) (matched : List.Forall₂ P.pairs reordered other.items) :
    SameValue P (some object) (some other) key := by
  change Option.Rel P.pairs (objectValue? left object key) (objectValue? right other key)
  rw [objectValue?, find?_eq_of_perm (length_filter_entryKey? distinct) perm]
  exact rel_value_of_matched P matched key

theorem sameOptions_of_values (name : String)
    (values : ∀ key ∈ optionKeys, SameValue P (some object) (some other) key) :
    SameOptions P.pairs (decodeOptions left (some object) name)
      (decodeOptions right (some other) name) where
  attributeName := attributeName_eq_of_value P (values "attribute" (by decide)) name
  typeOption := typeOption_eq_of_value P (values "type" (by decide))
  reflect := reflect_eq_of_value P (values "reflect" (by decide))
  converter := values "converter" (by decide)

end Paired

/-- Neither children without an option nor the order of entries with distinct keys show in the
options, and every option is read off the value of its own key, the attribute with the name. -/
theorem decodeOptions_reads_own_pairs {left right : Source} (P : Pairing left right)
    (object other : Node) :
    (∀ name kept kept', Aligned Eq (IsIdle left) object.children kept →
      Aligned Eq (IsIdle right) other.children kept' → List.Forall₂ P.pairs kept kept' →
        SameOptions P.pairs (decodeOptions left (some object) name)
          (decodeOptions right (some other) name)) ∧
    (∀ name reordered, DistinctKeys left object → object.items.Perm reordered →
      List.Forall₂ P.pairs reordered other.items →
        SameOptions P.pairs (decodeOptions left (some object) name)
          (decodeOptions right (some other) name)) ∧
    (SameValue P (some object) (some other) "attribute" →
      ∀ name, (decodeOptions left (some object) name).attributeName =
        (decodeOptions right (some other) name).attributeName) ∧
    (SameValue P (some object) (some other) "type" →
      ∀ name name', (decodeOptions left (some object) name).typeOption =
        (decodeOptions right (some other) name').typeOption) ∧
    (SameValue P (some object) (some other) "reflect" →
      ∀ name name', (decodeOptions left (some object) name).reflect =
        (decodeOptions right (some other) name').reflect) ∧
    (SameValue P (some object) (some other) "converter" →
      ∀ name name', Option.Rel P.pairs (decodeOptions left (some object) name).converter
        (decodeOptions right (some other) name').converter) := by
  refine ⟨?_, ?_, ?_, ?_, ?_, ?_⟩
  · intro name kept kept' fewer fewerToo matched
    exact sameOptions_of_values P name fun key known =>
      sameValue_of_kept P known fewer fewerToo matched
  · intro name reordered distinct perm matched
    exact sameOptions_of_values P name fun key _ =>
      sameValue_of_perm P distinct perm matched
  · exact fun value name => attributeName_eq_of_value P value name
  · exact fun value _ _ => typeOption_eq_of_value P value
  · exact fun value _ _ => reflect_eq_of_value P value
  · exact fun value _ _ => value

def crowdedOptionsSource : Source := .ofString
  "\x7b...d,type:Number,\"type\":Y,attribute:\"a\",get reflect()\x7b\x7d,/*c*/x:1\x7d"

def crowdedOptions : Node := (Node.ofRows? [
  namedRow .object 6 0 66 none,
  namedRow (.other "spread_element") 1 1 5 none,
  namedRow .identifier 0 4 5 none,
  namedRow .pair 2 6 17 none,
  namedRow .propertyIdentifier 0 6 10 (some .key),
  namedRow .identifier 0 11 17 (some .value),
  namedRow .pair 2 18 26 none,
  namedRow .stringLiteral 0 18 24 (some .key),
  namedRow .identifier 0 25 26 (some .value),
  namedRow .pair 2 27 40 none,
  namedRow .propertyIdentifier 0 27 36 (some .key),
  namedRow .stringLiteral 0 37 40 (some .value),
  namedRow .methodDefinition 2 41 56 none,
  ⟨.getWord, false, none, ⟨41, 44⟩, 0⟩,
  namedRow .propertyIdentifier 0 45 52 (some .name),
  namedRow .comment 0 57 62 none]).getD default

def plainOptionsSource : Source := .ofString
  "\x7btype,reflect()\x7b\x7d,type:Number,attribute:\"a\"\x7d"

def plainOptions : Node := (Node.ofRows? [
  namedRow .object 4 0 44 none,
  namedRow (.other "shorthand_property_identifier") 0 1 5 none,
  namedRow .methodDefinition 1 6 17 none,
  namedRow .propertyIdentifier 0 6 13 (some .name),
  namedRow .pair 2 18 29 none,
  namedRow .propertyIdentifier 0 18 22 (some .key),
  namedRow .identifier 0 23 29 (some .value),
  namedRow .pair 2 30 43 none,
  namedRow .propertyIdentifier 0 30 39 (some .key),
  namedRow .stringLiteral 0 40 43 (some .value)]).getD default

/-- The children of an object that give an option. -/
def optionPairs (source : Source) (object : Node) : List Node :=
  object.children.filter fun child => !decide (IsIdle source child)

theorem aligned_optionPairs (source : Source) (object : Node) :
    Aligned Eq (IsIdle source) object.children (optionPairs source object) :=
  .of_filter (fun child idle => by simpa using idle) object.children

def turnedOptions : Node := { crowdedOptions with children := crowdedOptions.children.reverse }

instance (left right : Source) (options options' : Option Node) (key : String) :
    Decidable (SameValue (contentPairing left right) options options' key) :=
  inferInstanceAs (Decidable (Option.Rel (fun a b => sameContent left right a b = true)
    (optionValue? left options key) (optionValue? right options' key)))

/-- The two objects give the same options, and so does the first one turned round. -/
theorem decodeOptions_reads_own_pairs_crowdedOptions :
    List.Forall₂ (contentPairing crowdedOptionsSource plainOptionsSource).pairs
        (optionPairs crowdedOptionsSource crowdedOptions)
        (optionPairs plainOptionsSource plainOptions) ∧
      SameOptions (contentPairing crowdedOptionsSource plainOptionsSource).pairs
        (decodeOptions crowdedOptionsSource (some crowdedOptions) "b")
        (decodeOptions plainOptionsSource (some plainOptions) "b") ∧
      DistinctKeys crowdedOptionsSource crowdedOptions ∧
      decodeOptions crowdedOptionsSource (some crowdedOptions) "b" =
        decodeOptions crowdedOptionsSource (some turnedOptions) "b" ∧
      (∀ key ∈ optionKeys, SameValue (contentPairing crowdedOptionsSource plainOptionsSource)
        (some crowdedOptions) (some plainOptions) key) ∧
      (∀ name, (decodeOptions crowdedOptionsSource (some crowdedOptions) name).attributeName =
        (decodeOptions plainOptionsSource (some plainOptions) name).attributeName) ∧
      ∀ name name',
        (decodeOptions crowdedOptionsSource (some crowdedOptions) name).typeOption =
            (decodeOptions plainOptionsSource (some plainOptions) name').typeOption ∧
          (decodeOptions crowdedOptionsSource (some crowdedOptions) name).reflect =
            (decodeOptions plainOptionsSource (some plainOptions) name').reflect := by
  have matched : List.Forall₂ (contentPairing crowdedOptionsSource plainOptionsSource).pairs
      (optionPairs crowdedOptionsSource crowdedOptions)
      (optionPairs plainOptionsSource plainOptions) :=
    forall₂_of_sameContents _ _ (by decide +kernel)
  have distinct : DistinctKeys crowdedOptionsSource crowdedOptions := by decide +kernel
  have turned : crowdedOptions.items.Perm turnedOptions.items := by
    rw [turnedOptions, Node.items, Node.items, List.filter_reverse]
    exact (List.reverse_perm _).symm
  have values : ∀ key ∈ optionKeys,
      SameValue (contentPairing crowdedOptionsSource plainOptionsSource) (some crowdedOptions)
        (some plainOptions) key := by decide +kernel
  obtain ⟨kept, -, attributes, types, reflects, -⟩ := decodeOptions_reads_own_pairs
    (contentPairing crowdedOptionsSource plainOptionsSource) crowdedOptions plainOptions
  obtain ⟨-, reordered, -⟩ := decodeOptions_reads_own_pairs
    (Pairing.refl crowdedOptionsSource) crowdedOptions turnedOptions
  have sameKept := kept "b" _ _ (aligned_optionPairs crowdedOptionsSource crowdedOptions)
    (aligned_optionPairs plainOptionsSource plainOptions) matched
  have sameTurned := reordered "b" turnedOptions.items distinct turned
    (List.forall₂_same.mpr fun _ _ => rfl)
  exact ⟨matched, sameKept, distinct, sameTurned.eq, values,
    attributes (values "attribute" (by decide)), fun name name' =>
      ⟨types (values "type" (by decide)) name name',
        reflects (values "reflect" (by decide)) name name'⟩⟩

end ReactiveProps.Property
