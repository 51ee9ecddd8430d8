import Mathlib.Data.List.Basic
import Mathlib.Data.List.Induction
import ReactiveProps.OrderedMap

/-!
# Writing many pairs to a map

`insertAll` keeps every key at the place of its first occurrence and with the value of its last.
`insertAllNew` gives a key that the map does not have the value of its first occurrence.
-/
namespace ReactiveProps

variable {α β : Type} [DecidableEq α]

def lastValue? (pairs : List (α × β)) (key : α) : Option β :=
  (pairs.reverse.find? fun pair => pair.1 = key).map Prod.snd

@[simp] theorem lastValue?_nil (key : α) : lastValue? ([] : List (α × β)) key = none := rfl

theorem lastValue?_cons (pair : α × β) (rest : List (α × β)) (key : α) :
    lastValue? (pair :: rest) key =
      (lastValue? rest key).or (if pair.1 = key then some pair.2 else none) := by
  unfold lastValue?
  rw [List.reverse_cons, List.find?_append]
  cases rest.reverse.find? fun entry => entry.1 = key with
  | some entry => simp
  | none => by_cases h : pair.1 = key <;> simp [h]

theorem lastValue?_append (xs ys : List (α × β)) (key : α) :
    lastValue? (xs ++ ys) key = (lastValue? ys key).or (lastValue? xs key) := by
  unfold lastValue?
  rw [List.reverse_append, List.find?_append]
  cases ys.reverse.find? fun entry => entry.1 = key <;> simp

theorem lastValue?_eq_none_iff (pairs : List (α × β)) (key : α) :
    lastValue? pairs key = none ↔ key ∉ pairs.map Prod.fst := by
  induction pairs with
  | nil => simp
  | cons pair rest ih =>
    rw [lastValue?_cons, Option.or_eq_none_iff, ih, List.map_cons, List.mem_cons, not_or]
    by_cases h : pair.1 = key
    · simp [h]
    · simp [h, Ne.symm h]

theorem mem_of_lastValue? {pairs : List (α × β)} {key : α} {value : β}
    (last : lastValue? pairs key = some value) : (key, value) ∈ pairs := by
  induction pairs with
  | nil => simp at last
  | cons pair rest ih =>
    rw [lastValue?_cons] at last
    cases found : lastValue? rest key with
    | some other =>
      rw [found, Option.some_or, Option.some.injEq] at last
      exact List.mem_cons_of_mem pair (ih (found.trans (congrArg some last)))
    | none =>
      rw [found, Option.none_or] at last
      obtain ⟨rfl, same⟩ := Option.ite_none_right_eq_some.mp last
      cases same
      exact List.mem_cons_self

theorem lastValue?_of_getLast? {pairs : List (α × β)} {key : α} {value : β}
    (last : pairs.getLast? = some (key, value)) : lastValue? pairs key = some value := by
  obtain ⟨before, rfl⟩ := List.getLast?_eq_some_iff.mp last
  simp [lastValue?_append, lastValue?_cons]

theorem lastValue?_of_mem {pairs : List (α × β)} (distinct : (pairs.map Prod.fst).Nodup)
    {key : α} {value : β} (listed : (key, value) ∈ pairs) : lastValue? pairs key = some value := by
  induction pairs with
  | nil => cases listed
  | cons pair rest ih =>
    rw [List.map_cons, List.nodup_cons] at distinct
    rw [lastValue?_cons]
    rcases List.mem_cons.mp listed with rfl | later
    · rw [(lastValue?_eq_none_iff rest key).mpr distinct.1]
      simp
    · rw [ih distinct.2 later, Option.some_or]

def firstValue? (pairs : List (α × β)) (key : α) : Option β :=
  (pairs.find? fun pair => pair.1 = key).map Prod.snd

@[simp] theorem firstValue?_nil (key : α) : firstValue? ([] : List (α × β)) key = none := rfl

theorem firstValue?_cons (pair : α × β) (rest : List (α × β)) (key : α) :
    firstValue? (pair :: rest) key =
      (if pair.1 = key then some pair.2 else none).or (firstValue? rest key) := by
  unfold firstValue?
  by_cases h : pair.1 = key <;> simp [h]

theorem firstValue?_eq_none_iff (pairs : List (α × β)) (key : α) :
    firstValue? pairs key = none ↔ key ∉ pairs.map Prod.fst := by
  induction pairs with
  | nil => simp
  | cons pair rest ih =>
    rw [firstValue?_cons, Option.or_eq_none_iff, ih, List.map_cons, List.mem_cons, not_or]
    simp [eq_comm]

/-- The first and the last value of a key are one unless the key occurs twice. -/
theorem firstValue?_eq_lastValue? {pairs : List (α × β)} {key : α}
    (once : (pairs.map Prod.fst).count key ≤ 1) :
    firstValue? pairs key = lastValue? pairs key := by
  induction pairs with
  | nil => rfl
  | cons pair rest ih =>
    rw [firstValue?_cons, lastValue?_cons]
    rw [List.map_cons, List.count_cons] at once
    by_cases same : pair.1 = key
    · have absent : key ∉ rest.map Prod.fst := by
        rw [← List.count_eq_zero]
        simp only [same, beq_self_eq_true, if_true] at once
        omega
      rw [(lastValue?_eq_none_iff rest key).mpr absent, if_pos same, Option.some_or, Option.none_or]
    · have later : (rest.map Prod.fst).count key ≤ 1 := by omega
      rw [if_neg same, Option.none_or, Option.or_none, ih later]

theorem eraseDups_of_nodup {keys : List α} (distinct : keys.Nodup) : keys.eraseDups = keys := by
  induction keys with
  | nil => rfl
  | cons key rest ih =>
    obtain ⟨fresh, tail⟩ := List.nodup_cons.mp distinct
    have kept : rest.filter (fun other => !other == key) = rest := by
      rw [List.filter_eq_self]
      intro other member
      simpa using fun same : other = key => fresh (same ▸ member)
    rw [List.eraseDups_cons, kept, ih tail]

section EraseDups

variable {α : Type} [BEq α] [LawfulBEq α]

/-- A key that occurred before changes nothing about the first occurrences. -/
theorem eraseDups_append_cons_of_mem {seen : List α} {key : α} (rest : List α)
    (member : key ∈ seen) : (seen ++ key :: rest).eraseDups = (seen ++ rest).eraseDups := by
  have skipped : (key :: rest).removeAll seen = rest.removeAll seen := by
    simp [List.cons_removeAll, member]
  rw [List.eraseDups_append, List.eraseDups_append, skipped]

theorem eraseDups_concat_of_mem {keys : List α} {key : α} (member : key ∈ keys) :
    (keys ++ [key]).eraseDups = keys.eraseDups := by
  rw [eraseDups_append_cons_of_mem [] member, List.append_nil]

theorem eraseDups_concat_of_notMem {keys : List α} {key : α} (fresh : key ∉ keys) :
    (keys ++ [key]).eraseDups = keys.eraseDups ++ [key] := by
  rw [List.eraseDups_append]
  simp [List.removeAll, fresh, List.eraseDups_cons]

theorem nodup_eraseDups (keys : List α) : keys.eraseDups.Nodup := by
  induction keys using List.reverseRecOn with
  | nil => exact .nil
  | append_singleton keys key ih =>
    by_cases known : key ∈ keys
    · rw [eraseDups_concat_of_mem known]
      exact ih
    · rw [eraseDups_concat_of_notMem known, List.nodup_append]
      refine ⟨ih, by simp, fun other listed last there same => ?_⟩
      rw [List.mem_singleton.mp there] at same
      exact known (List.mem_eraseDups.mp (same ▸ listed))

end EraseDups

theorem eraseDups_append_eraseDups (seen keys : List α) :
    (seen ++ keys.eraseDups).eraseDups = (seen ++ keys).eraseDups := by
  induction keys using List.reverseRecOn with
  | nil => rfl
  | append_singleton keys key ih =>
    by_cases known : key ∈ keys
    · rw [eraseDups_concat_of_mem known, ih, ← List.append_assoc,
        eraseDups_concat_of_mem (List.mem_append_right seen known)]
    · have same : [key].removeAll (seen ++ keys.eraseDups) = [key].removeAll (seen ++ keys) := by
        simp [List.removeAll]
      rw [eraseDups_concat_of_notMem known, ← List.append_assoc, ← List.append_assoc,
        List.eraseDups_append, ih, same, ← List.eraseDups_append]

namespace OrderedMap

@[simp] theorem insertAll_nil (map : OrderedMap α β) : map.insertAll [] = map := rfl

@[simp] theorem insertAll_cons (map : OrderedMap α β) (pair : α × β) (rest : List (α × β)) :
    map.insertAll (pair :: rest) = (map.insert pair.1 pair.2).insertAll rest := rfl

theorem insertAll_append (map : OrderedMap α β) (xs ys : List (α × β)) :
    map.insertAll (xs ++ ys) = (map.insertAll xs).insertAll ys := by
  simp [insertAll]

theorem keys_insertAll (map : OrderedMap α β) (pairs : List (α × β)) :
    (map.insertAll pairs).keys = (map.keys ++ pairs.map Prod.fst).eraseDups := by
  induction pairs generalizing map with
  | nil =>
    rw [List.map_nil, List.append_nil]
    exact (eraseDups_of_nodup map.nodup_keys).symm
  | cons pair rest ih =>
    rw [insertAll_cons, ih, keys_insert, List.map_cons]
    split
    · rename_i member
      exact (eraseDups_append_cons_of_mem _ member).symm
    · rw [List.append_assoc, List.singleton_append]

theorem get?_insertAll (map : OrderedMap α β) (pairs : List (α × β)) (key : α) :
    (map.insertAll pairs).get? key = (lastValue? pairs key).or (map.get? key) := by
  induction pairs generalizing map with
  | nil => rfl
  | cons pair rest ih =>
    rw [insertAll_cons, ih, get?_insert, lastValue?_cons]
    cases lastValue? rest key with
    | some value => rfl
    | none =>
      by_cases h : pair.1 = key
      · simp [h]
      · simp [h, Ne.symm h]

@[simp] theorem get?_empty (key : α) : (empty : OrderedMap α β).get? key = none := rfl

theorem keys_ofPairs (pairs : List (α × β)) :
    (ofPairs pairs).keys = (pairs.map Prod.fst).eraseDups :=
  keys_insertAll empty pairs

theorem get?_ofPairs (pairs : List (α × β)) (key : α) :
    (ofPairs pairs).get? key = lastValue? pairs key := by
  simp [ofPairs, get?_insertAll]

theorem get?_of_mem {map : OrderedMap α β} {key : α} {value : β}
    (listed : (key, value) ∈ map.entries) : map.get? key = some value := by
  obtain ⟨entries, distinct⟩ := map
  rw [get?]
  induction entries with
  | nil => cases listed
  | cons entry rest ih =>
    rw [List.map_cons, List.nodup_cons] at distinct
    rcases List.mem_cons.mp listed with rfl | later
    · simp
    · have fresh : entry.1 ≠ key := by
        rintro rfl
        exact distinct.1 (List.mem_map.mpr ⟨_, later, rfl⟩)
      simp [fresh, ih distinct.2 later]

theorem lastValue?_entries (map : OrderedMap α β) (key : α) :
    lastValue? map.entries key = map.get? key := by
  cases last : lastValue? map.entries key with
  | some value => exact (get?_of_mem (mem_of_lastValue? last)).symm
  | none =>
    have absent := (lastValue?_eq_none_iff map.entries key).mp last
    symm
    rw [get?, Option.map_eq_none_iff, List.find?_eq_none]
    intro entry inside same
    exact absent (List.mem_map.mpr ⟨entry, inside, of_decide_eq_true same⟩)

/-- The values of the keys and their order determine a map. -/
theorem eq_of_get? {map other : OrderedMap α β} (keys : map.keys = other.keys)
    (values : ∀ key, map.get? key = other.get? key) : map = other := by
  have listed (map : OrderedMap α β) : map.entries =
      map.keys.filterMap fun key => (map.get? key).map (key, ·) := by
    have each : ∀ entry ∈ map.entries, (map.get? entry.1).map (entry.1, ·) = some entry := by
      intro entry inside
      rw [get?_of_mem inside]
      rfl
    rw [OrderedMap.keys, List.filterMap_map]
    exact ((List.filterMap_congr each).trans List.filterMap_some).symm
  have entries : map.entries = other.entries := by
    rw [listed map, listed other, keys]
    refine List.filterMap_congr fun key _ => ?_
    rw [values]
  cases map
  cases other
  cases entries
  rfl

/-- Writing a map made of pairs is writing the pairs. -/
theorem insertAll_entries_ofPairs (map : OrderedMap α β) (pairs : List (α × β)) :
    map.insertAll (ofPairs pairs).entries = map.insertAll pairs := by
  refine eq_of_get? ?_ fun key => ?_
  · have keys : (ofPairs pairs).entries.map Prod.fst = (pairs.map Prod.fst).eraseDups :=
      keys_ofPairs pairs
    rw [keys_insertAll, keys_insertAll, keys, eraseDups_append_eraseDups]
  · rw [get?_insertAll, get?_insertAll, lastValue?_entries, get?_ofPairs]

/-- Pairs whose keys are all different are the entries of the map made of them. -/
theorem entries_ofPairs {pairs : List (α × β)} (distinct : (pairs.map Prod.fst).Nodup) :
    (ofPairs pairs).entries = pairs := by
  have same : ofPairs pairs = ⟨pairs, distinct⟩ := by
    refine eq_of_get? ((keys_ofPairs pairs).trans (eraseDups_of_nodup distinct)) fun key => ?_
    rw [get?_ofPairs]
    exact lastValue?_entries ⟨pairs, distinct⟩ key
  rw [same]

theorem get?_insertNew (map : OrderedMap α β) (key other : α) (value : β) :
    (map.insertNew key value).get? other =
      (map.get? other).or (if key = other then some value else none) := by
  unfold insertNew contains
  cases held : map.get? key with
  | some found =>
    by_cases same : key = other
    · simp [← same, held]
    · simp [same]
  | none =>
    by_cases same : key = other
    · simp [← same, held, get?_insert]
    · simp [same, Ne.symm same, get?_insert]

/-- Writes pairs from first to last, each only if the map does not have its key. -/
def insertAllNew (map : OrderedMap α β) (pairs : List (α × β)) : OrderedMap α β :=
  pairs.foldl (fun map pair => map.insertNew pair.1 pair.2) map

@[simp] theorem insertAllNew_nil (map : OrderedMap α β) : map.insertAllNew [] = map := rfl

@[simp] theorem insertAllNew_cons (map : OrderedMap α β) (pair : α × β) (rest : List (α × β)) :
    map.insertAllNew (pair :: rest) = (map.insertNew pair.1 pair.2).insertAllNew rest := rfl

theorem get?_insertAllNew (map : OrderedMap α β) (pairs : List (α × β)) (key : α) :
    (map.insertAllNew pairs).get? key = (map.get? key).or (firstValue? pairs key) := by
  induction pairs generalizing map with
  | nil => simp
  | cons pair rest ih =>
    rw [insertAllNew_cons, ih, get?_insertNew, firstValue?_cons, Option.or_assoc]

end OrderedMap

end ReactiveProps
