import ReactiveProps.Proofs.Content
import ReactiveProps.Proofs.Merge
import ReactiveProps.Proofs.PairedTypes

/-!
# Types of arrays

The type of an array is made of the types of its elements as a set: if it has one type, that one
shows, however the elements are ordered and how often each occurs.
-/
namespace ReactiveProps.Typing

open SyntaxTree Property

section ArrayType

variable {types others : List String} {type other : String}

theorem arrayType_of_uniform (filled : types ≠ []) (uniform : ∀ t ∈ types, t = type) :
    arrayType types = type ++ "[]" := by
  cases types with
  | nil => exact absurd rfl filled
  | cons first rest =>
    obtain ⟨rfl, same⟩ := List.forall_mem_cons.mp uniform
    have all : rest.all (· == first) = true :=
      List.all_eq_true.mpr fun t listed => beq_iff_eq.mpr (same t listed)
    rw [arrayType, if_pos all]

theorem arrayType_of_mixed (listed : type ∈ types) (listedToo : other ∈ types)
    (differ : type ≠ other) : arrayType types = unknown ++ "[]" := by
  cases types with
  | nil => cases listed
  | cons first rest =>
    rw [arrayType, if_neg]
    intro all
    have same : ∀ t ∈ first :: rest, t = first := List.forall_mem_cons.mpr
      ⟨rfl, fun t later => beq_iff_eq.mp (List.all_eq_true.mp all t later)⟩
    exact differ ((same type listed).trans (same other listedToo).symm)

/-- Neither the order of the types nor how often each occurs shows. -/
theorem arrayType_eq_of_subset (fewer : types ⊆ others) (more : others ⊆ types) :
    arrayType types = arrayType others := by
  cases types with
  | nil => rw [List.subset_nil.mp more]
  | cons first rest =>
    have filled : others ≠ [] := List.ne_nil_of_mem (fewer List.mem_cons_self)
    by_cases uniform : ∀ t ∈ first :: rest, t = first
    · rw [arrayType_of_uniform (List.cons_ne_nil first rest) uniform,
        arrayType_of_uniform filled fun t listed => uniform t (more listed)]
    · simp only [not_forall] at uniform
      obtain ⟨t, listed, differ⟩ := uniform
      rw [arrayType_of_mixed listed List.mem_cons_self differ,
        arrayType_of_mixed (fewer listed) (fewer List.mem_cons_self) differ]

end ArrayType

/-- The second array has the elements of the first, in any order and each any number of times. -/
def SameElements {left right : Source} (P : Pairing left right) (array other : Node) : Prop :=
  (∀ x ∈ array.items, ∃ y ∈ other.items, P.pairs x y) ∧
    ∀ y ∈ other.items, ∃ x ∈ array.items, P.pairs x y

/-- Arrays in arrays to the given depth, none of them empty, around innermost elements. -/
def NestedArray (innermost : Node → Prop) : Nat → Node → Prop
  | 0, node => innermost node
  | depth + 1, node =>
    node.kind = .array ∧ node.items ≠ [] ∧ ∀ x ∈ node.items, NestedArray innermost depth x

instance NestedArray.decidable (innermost : Node → Prop) [DecidablePred innermost] :
    ∀ depth node, Decidable (NestedArray innermost depth node)
  | 0, node => inferInstanceAs (Decidable (innermost node))
  | depth + 1, node =>
    have := decidable innermost depth
    inferInstanceAs (Decidable (node.kind = .array ∧ node.items ≠ [] ∧ ∀ x ∈ node.items, _))

section Elements

variable {source : Source} {array : Node} (isArray : array.kind = .array)

include isArray

theorem infer_array : (infer source array).text =
    arrayType (array.items.map fun x => (infer source x).text) := by
  rw [infer_eq, isArray]
  simp only [literalType?, List.map_map, Function.comp_def]

theorem infer_array_of_uniform {type : String} (filled : array.items ≠ [])
    (uniform : ∀ x ∈ array.items, (infer source x).text = type) :
    (infer source array).text = type ++ "[]" := by
  rw [infer_array isArray]
  exact arrayType_of_uniform (mt List.map_eq_nil_iff.mp filled) (List.forall_mem_map.mpr uniform)

theorem infer_array_of_mixed {x y : Node} (listed : x ∈ array.items) (listedToo : y ∈ array.items)
    (differ : (infer source x).text ≠ (infer source y).text) :
    (infer source array).text = unknown ++ "[]" := by
  rw [infer_array isArray]
  exact arrayType_of_mixed (List.mem_map_of_mem listed) (List.mem_map_of_mem listedToo) differ

theorem infer_array_of_sameElements {right : Source} {P : Pairing source right}
    (full : ∀ c, ¬ P.gap c) {other : Node} (isArrayToo : other.kind = .array)
    (same : SameElements P array other) : (infer right other).text = (infer source array).text := by
  rw [infer_array isArray, infer_array isArrayToo]
  refine arrayType_eq_of_subset ?_ ?_
  · intro type listed
    obtain ⟨y, inside, rfl⟩ := List.mem_map.mp listed
    obtain ⟨x, found, paired⟩ := same.2 y inside
    exact List.mem_map.mpr ⟨x, found, congrArg Inference.text (infer_eq_of_paired full paired)⟩
  · intro type listed
    obtain ⟨x, inside, rfl⟩ := List.mem_map.mp listed
    obtain ⟨y, found, paired⟩ := same.1 x inside
    exact List.mem_map.mpr
      ⟨y, found, congrArg Inference.text (infer_eq_of_paired full paired).symm⟩

end Elements

theorem join_replicate_succ (text : String) (n : Nat) :
    String.join (List.replicate (n + 1) text) = String.join (List.replicate n text) ++ text := by
  rw [List.replicate_succ', String.join_append]
  simp [String.join]

/-- Every level adds a pair of brackets. -/
theorem infer_nestedArray {source : Source} {type : String} (depth : Nat) {node : Node}
    (nested : NestedArray (fun x => (infer source x).text = type) depth node) :
    (infer source node).text = type ++ String.join (List.replicate depth "[]") := by
  induction depth generalizing node with
  | zero =>
    rw [nested]
    exact String.append_empty.symm
  | succ depth ih =>
    obtain ⟨isArray, filled, elements⟩ := nested
    rw [infer_array_of_uniform isArray filled fun x listed => ih (elements x listed),
      join_replicate_succ, String.append_assoc]

/-- An array without elements is an array of anything, one whose elements have one type is an array
of that type, and any other is an array of unknown type. The order of the elements and how often
each occurs do not matter, and arrays in arrays show their depth. -/
theorem array_type_of_element_types (source : Source) (array : Node)
    (isArray : array.kind = .array) :
    (array.items = [] → (infer source array).text = "any[]") ∧
    (∀ type, array.items ≠ [] → (∀ x ∈ array.items, (infer source x).text = type) →
      (infer source array).text = type ++ "[]") ∧
    ((∃ x ∈ array.items, ∃ y ∈ array.items, (infer source x).text ≠ (infer source y).text) →
      (infer source array).text = "unknown[]") ∧
    (∀ (right : Source) (P : Pairing source right), (∀ c, ¬ P.gap c) →
      ∀ other, other.kind = .array → SameElements P array other →
        (infer right other).text = (infer source array).text) ∧
    ∀ type depth, NestedArray (fun x => (infer source x).text = type) depth array →
      (infer source array).text = type ++ String.join (List.replicate depth "[]") := by
  refine ⟨fun empty => ?_, fun type => infer_array_of_uniform isArray, ?_, ?_,
    fun type depth => infer_nestedArray depth⟩
  · rw [infer_array isArray, empty]
    rfl
  · rintro ⟨x, listed, y, listedToo, differ⟩
    exact infer_array_of_mixed isArray listed listedToo differ
  · exact fun right P full other isArrayToo same =>
      infer_array_of_sameElements isArray full isArrayToo same

def nestedNumbersSource : Source := .ofString "[[1,/*c*/2],[3]]"

def nestedNumbers : Node := (Node.ofRows? [
  namedRow .array 2 0 16 none,
  namedRow .array 3 1 11 none,
  namedRow .number 0 2 3 none,
  namedRow .comment 0 4 9 none,
  namedRow .number 0 9 10 none,
  namedRow .array 1 12 15 none,
  namedRow .number 0 13 14 none]).getD default

def shuffledNumbersSource : Source := .ofString "[[3],[1,/*c*/2],[3]]"

def shuffledNumbers : Node := (Node.ofRows? [
  namedRow .array 3 0 20 none,
  namedRow .array 1 1 4 none,
  namedRow .number 0 2 3 none,
  namedRow .array 3 5 15 none,
  namedRow .number 0 6 7 none,
  namedRow .comment 0 8 13 none,
  namedRow .number 0 13 14 none,
  namedRow .array 1 16 19 none,
  namedRow .number 0 17 18 none]).getD default

/-- The type of the first array shows its depth. The second one has the same elements. -/
theorem array_type_of_element_types_nestedNumbers :
    nestedNumbers.kind = .array ∧
      NestedArray (fun x => (infer nestedNumbersSource x).text = "number") 2 nestedNumbers ∧
      (infer nestedNumbersSource nestedNumbers).text = "number[][]" ∧
      shuffledNumbers.kind = .array ∧
      SameElements (contentPairing nestedNumbersSource shuffledNumbersSource) nestedNumbers
        shuffledNumbers ∧
      (infer shuffledNumbersSource shuffledNumbers).text = "number[][]" := by
  have isArray : nestedNumbers.kind = .array := by decide +kernel
  have isArrayToo : shuffledNumbers.kind = .array := by decide +kernel
  have nested : NestedArray (fun x => (infer nestedNumbersSource x).text = "number") 2
      nestedNumbers := by decide +kernel
  have alike : (∀ x ∈ nestedNumbers.items, ∃ y ∈ shuffledNumbers.items,
        sameContent nestedNumbersSource shuffledNumbersSource x y = true) ∧
      ∀ y ∈ shuffledNumbers.items, ∃ x ∈ nestedNumbers.items,
        sameContent nestedNumbersSource shuffledNumbersSource x y = true := by decide +kernel
  obtain ⟨-, -, -, reordered, deep⟩ :=
    array_type_of_element_types nestedNumbersSource nestedNumbers isArray
  have type := (deep "number" 2 nested).trans (by decide +kernel : _ = "number[][]")
  exact ⟨isArray, nested, type, isArrayToo, alike,
    (reordered _ (contentPairing _ _) (fun _ => id) shuffledNumbers isArrayToo alike).trans type⟩

end ReactiveProps.Typing
