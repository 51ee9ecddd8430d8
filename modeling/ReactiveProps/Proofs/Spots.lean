import ReactiveProps.Proofs.Alignment
import ReactiveProps.Proofs.OrderedMap

/-!
# What a pass over a list collects

A spot is an element of a list with all that stands before and after it. `Gathers R` says that a
second list has, in order, one element for each element of the first that `R` relates to something,
and no other elements.
-/
namespace ReactiveProps

variable {α β γ : Type}

structure Spot (α : Type) where
  before : List α
  here : α
  after : List α

def spotsFrom (before : List α) : List α → List (Spot α)
  | [] => []
  | x :: rest => ⟨before, x, rest⟩ :: spotsFrom (before ++ [x]) rest

/-- The elements of a list in order, each with its surroundings. -/
def spots (xs : List α) : List (Spot α) := spotsFrom [] xs

theorem mem_spotsFrom_iff {before xs : List α} {spot : Spot α} :
    spot ∈ spotsFrom before xs ↔
      ∃ skipped, spot.before = before ++ skipped ∧ xs = skipped ++ spot.here :: spot.after := by
  induction xs generalizing before with
  | nil => simp [spotsFrom]
  | cons x rest ih =>
    rw [spotsFrom, List.mem_cons, ih]
    constructor
    · rintro (rfl | ⟨skipped, front, rfl⟩)
      · exact ⟨[], by simp, rfl⟩
      · exact ⟨x :: skipped, by simp [front], rfl⟩
    · rintro ⟨skipped, front, split⟩
      cases skipped with
      | nil =>
        obtain ⟨early, here, late⟩ := spot
        rw [List.nil_append, List.cons.injEq] at split
        obtain ⟨rfl, rfl⟩ := split
        exact .inl (by simpa using front)
      | cons first skipped =>
        rw [List.cons_append, List.cons.injEq] at split
        obtain ⟨rfl, rfl⟩ := split
        exact .inr ⟨skipped, by simp [front], rfl⟩

theorem mem_spots_iff {xs : List α} {spot : Spot α} :
    spot ∈ spots xs ↔ xs = spot.before ++ spot.here :: spot.after := by
  rw [spots, mem_spotsFrom_iff]
  simp

theorem map_here_spotsFrom (before xs : List α) : (spotsFrom before xs).map Spot.here = xs := by
  induction xs generalizing before with
  | nil => rfl
  | cons x rest ih => rw [spotsFrom, List.map_cons, ih]

theorem map_here_spots (xs : List α) : (spots xs).map Spot.here = xs := map_here_spotsFrom [] xs

/-- In order, one element for each element of the first list that is related to something. -/
def Gathers (R : α → β → Prop) (xs : List α) (ys : List β) : Prop :=
  Aligned R (fun x => ∀ y, ¬ R x y) xs ys

namespace Gathers

variable {R S : α → β → Prop} {f : α → Option β}

theorem congr {xs : List α} {ys : List β} (same : ∀ x y, R x y ↔ S x y)
    (gathers : Gathers R xs ys) : Gathers S xs ys :=
  gathers.mono (fun x y => (same x y).mp) fun x none y related => none y ((same x y).mpr related)

theorem filterMap (same : ∀ x y, f x = some y ↔ R x y) (xs : List α) :
    Gathers R xs (xs.filterMap f) := by
  induction xs with
  | nil => exact .nil
  | cons x rest ih =>
    cases read : f x with
    | none =>
      rw [List.filterMap_cons_none read]
      refine .skip (fun y related => ?_) ih
      rw [(same x y).mpr related] at read
      cases read
    | some y =>
      rw [List.filterMap_cons_some read]
      exact .cons ((same x y).mp read) ih

theorem map {xs : List α} {ys : List β} (g : β → γ) (gathers : Gathers R xs ys) :
    Gathers (fun x z => ∃ y, R x y ∧ z = g y) xs (ys.map g) := by
  have mapped : Gathers (fun x z => ∃ y, R x y ∧ z = g y) (xs.map id) (ys.map g) :=
    Aligned.map (fun x y related => ⟨y, related, rfl⟩)
      (fun x none z ⟨y, related, _⟩ => none y related) gathers
  rwa [List.map_id] at mapped

/-- What a reading finds at each place. -/
theorem readings (f : α → Option β) (xs : List α) :
    Gathers (fun spot y => f spot.here = some y) (spots xs) (xs.filterMap f) := by
  have read : Gathers (fun spot y => f spot.here = some y) (spots xs)
      ((spots xs).filterMap fun spot => f spot.here) := filterMap (fun _ _ => Iff.rfl) (spots xs)
  have all : (spots xs).filterMap (fun spot => f spot.here) = xs.filterMap f := by
    conv_rhs => rw [← map_here_spots xs, List.filterMap_map]
    rfl
  rwa [all] at read

end Gathers

section Single

variable {p : α → Bool} {xs : List α} (single : (xs.filter p).length ≤ 1)

include single

/-- Where one element at most passes, whatever passes is found. -/
theorem find?_eq_some_iff_of_single (x : α) : xs.find? p = some x ↔ x ∈ xs ∧ p x = true := by
  rw [← List.head?_filter, ← List.mem_filter]
  match chosen : xs.filter p with
  | [] => simp
  | [y] => simp [eq_comm]
  | y :: z :: rest =>
    rw [chosen] at single
    simp at single

theorem find?_eq_of_perm {ys : List α} (perm : xs.Perm ys) : xs.find? p = ys.find? p := by
  have singleToo : (ys.filter p).length ≤ 1 := (perm.filter p).length_eq ▸ single
  refine Option.ext fun x => ?_
  rw [find?_eq_some_iff_of_single single, find?_eq_some_iff_of_single singleToo, perm.mem_iff]

end Single

section First

variable (f : α → Option β)

def ReadFirst (spot : Spot α) (y : β) : Prop :=
  f spot.here = some y ∧ ∀ earlier ∈ spot.before, f earlier = none

def ReadAgain (spot : Spot α) (y : β) : Prop :=
  f spot.here = some y ∧ ∃ earlier ∈ spot.before, f earlier ≠ none

variable {f} {before : List α}

theorem gathers_of_read (read : ∃ earlier ∈ before, f earlier ≠ none) (xs : List α) :
    Gathers (ReadFirst f) (spotsFrom before xs) [] ∧
      Gathers (ReadAgain f) (spotsFrom before xs) (xs.filterMap f) := by
  induction xs generalizing before with
  | nil => exact ⟨.nil, .nil⟩
  | cons x rest ih =>
    obtain ⟨earlier, listed, found⟩ := read
    obtain ⟨none, all⟩ := ih ⟨earlier, List.mem_append_left [x] listed, found⟩
    refine ⟨.skip (fun y first => found (first.2 earlier listed)) none, ?_⟩
    cases here : f x with
    | none =>
      rw [List.filterMap_cons_none here]
      refine .skip (fun y again => ?_) all
      cases here.symm.trans again.1
    | some y =>
      rw [List.filterMap_cons_some here]
      exact .cons ⟨here, earlier, listed, found⟩ all

theorem gathers_of_unread (unread : ∀ earlier ∈ before, f earlier = none) (xs : List α) :
    Gathers (ReadFirst f) (spotsFrom before xs) (xs.findSome? f).toList ∧
      Gathers (ReadAgain f) (spotsFrom before xs) (xs.filterMap f).tail := by
  induction xs generalizing before with
  | nil => exact ⟨.nil, .nil⟩
  | cons x rest ih =>
    have fresh {y : β} (again : ReadAgain f ⟨before, x, rest⟩ y) : False := by
      obtain ⟨-, earlier, listed, found⟩ := again
      exact found (unread earlier listed)
    cases here : f x with
    | none =>
      have still : ∀ earlier ∈ before ++ [x], f earlier = none := by
        intro earlier listed
        rcases List.mem_append.mp listed with early | last
        · exact unread earlier early
        · rw [List.mem_singleton.mp last, here]
      obtain ⟨first, later⟩ := ih still
      rw [List.findSome?_cons, here, List.filterMap_cons_none here]
      refine ⟨.skip (fun y first => ?_) first, .skip (fun y again => fresh again) later⟩
      cases here.symm.trans first.1
    | some y =>
      have read : ∃ earlier ∈ before ++ [x], f earlier ≠ none :=
        ⟨x, by simp, by rw [here]; exact Option.some_ne_none y⟩
      obtain ⟨none, all⟩ := gathers_of_read read rest
      rw [List.findSome?_cons, here, List.filterMap_cons_some here]
      exact ⟨.cons ⟨here, unread⟩ none, .skip (fun y again => fresh again) all⟩

/-- What is found first stands where something is read for the first time. -/
theorem gathers_findSome? (xs : List α) :
    Gathers (ReadFirst f) (spots xs) (xs.findSome? f).toList :=
  (gathers_of_unread (List.forall_mem_nil _) xs).1

/-- All that is found but the first is read where something was read before. -/
theorem gathers_tail (xs : List α) :
    Gathers (ReadAgain f) (spots xs) (xs.filterMap f).tail :=
  (gathers_of_unread (List.forall_mem_nil _) xs).2

end First

section Keys

variable {κ : Type} (f : α → Option (κ × β)) (taken : List κ)

def Taken (before : List α) (key : κ) : Prop :=
  key ∈ taken ∨ ∃ earlier ∈ before, ∃ value, f earlier = some (key, value)

/-- A pair is read here whose key is neither taken from the start nor read before. -/
def ReadFresh (spot : Spot α) (entry : κ × β) : Prop :=
  f spot.here = some entry ∧ ¬ Taken f taken spot.before entry.1

variable {f taken}

theorem taken_append_of_none {before : List α} {x : α} (unread : f x = none) (key : κ) :
    Taken f taken (before ++ [x]) key ↔ Taken f taken before key := by
  simp [Taken, or_and_right, exists_or, unread]

theorem taken_append_of_some {before : List α} {x : α} {entry : κ × β} (read : f x = some entry)
    (key : κ) :
    Taken f taken (before ++ [x]) key ↔ Taken f taken before key ∨ key = entry.1 := by
  have last : (∃ value, f x = some (key, value)) ↔ key = entry.1 := by
    rw [read]
    constructor
    · rintro ⟨value, same⟩
      exact (congrArg Prod.fst (Option.some.inj same)).symm
    · rintro rfl
      exact ⟨entry.2, rfl⟩
  simp only [Taken, List.mem_append, List.mem_singleton, or_and_right, exists_or, exists_eq_left,
    last, or_assoc]

variable [DecidableEq κ]

theorem firstValue?_filterMap (xs : List α) (key : κ) :
    firstValue? (xs.filterMap f) key = xs.findSome? fun x => firstValue? (f x).toList key := by
  induction xs with
  | nil => rfl
  | cons x rest ih =>
    rw [List.findSome?_cons, ← ih]
    cases read : f x with
    | none => rw [List.filterMap_cons_none read, Option.toList_none, firstValue?_nil]
    | some entry =>
      rw [List.filterMap_cons_some read, firstValue?_cons, Option.toList_some, firstValue?_cons]
      by_cases same : entry.1 = key <;> simp [same]

theorem firstValue?_toList_eq_some_iff (entry : Option (κ × β)) (key : κ) (value : β) :
    firstValue? entry.toList key = some value ↔ entry = some (key, value) := by
  cases entry with
  | none => simp
  | some entry => simp [firstValue?_cons, Prod.ext_iff]

theorem firstValue?_filterMap_eq_some_iff (xs : List α) (key : κ) (value : β) :
    firstValue? (xs.filterMap f) key = some value ↔ ∃ spot ∈ spots xs,
      f spot.here = some (key, value) ∧
        ∀ earlier ∈ spot.before, ∀ other, f earlier ≠ some (key, other) := by
  simp only [firstValue?_filterMap, List.findSome?_eq_some_iff, firstValue?_toList_eq_some_iff,
    Option.eq_none_iff_forall_ne_some, ne_eq, mem_spots_iff]
  constructor
  · rintro ⟨before, x, later, split, read, unread⟩
    exact ⟨⟨before, x, later⟩, split, read, unread⟩
  · rintro ⟨⟨before, x, later⟩, split, read, unread⟩
    exact ⟨before, x, later, split, read, unread⟩

theorem lastValue?_filterMap_eq_some_iff (xs : List α) (key : κ) (value : β) :
    lastValue? (xs.filterMap f) key = some value ↔ ∃ spot ∈ spots xs,
      f spot.here = some (key, value) ∧
        ∀ later ∈ spot.after, ∀ other, f later ≠ some (key, other) := by
  have backwards : lastValue? (xs.filterMap f) key = firstValue? (xs.reverse.filterMap f) key := by
    rw [List.filterMap_reverse]
    rfl
  rw [backwards, firstValue?_filterMap_eq_some_iff]
  -- a spot of the reversed list has its surroundings the other way round
  constructor
  · rintro ⟨⟨before, x, later⟩, listed, read, unread⟩
    rw [mem_spots_iff, List.reverse_eq_iff] at listed
    refine ⟨⟨later.reverse, x, before.reverse⟩, ?_, read, ?_⟩
    · rw [mem_spots_iff, listed]
      simp
    · simpa using unread
  · rintro ⟨⟨before, x, later⟩, listed, read, unread⟩
    rw [mem_spots_iff] at listed
    refine ⟨⟨later.reverse, x, before.reverse⟩, ?_, read, ?_⟩
    · rw [mem_spots_iff, listed]
      simp
    · simpa using unread

end Keys

namespace OrderedMap

variable {κ : Type} [DecidableEq κ]

theorem contains_iff_mem_keys (map : OrderedMap κ β) (key : κ) :
    map.contains key = true ↔ key ∈ map.keys := by
  rw [contains, ← lastValue?_entries, ← not_iff_not, Bool.not_eq_true, Option.isSome_eq_false_iff,
    Option.isNone_iff_eq_none, lastValue?_eq_none_iff, keys]

theorem entries_insert_of_notMem {map : OrderedMap κ β} {key : κ} (fresh : key ∉ map.keys)
    (value : β) : (map.insert key value).entries = map.entries ++ [(key, value)] := by
  have written (entries : List (κ × β)) (absent : key ∉ entries.map Prod.fst) :
      writeEntry key value entries = entries ++ [(key, value)] := by
    induction entries with
    | nil => rfl
    | cons entry rest ih =>
      rw [List.map_cons, List.mem_cons, not_or] at absent
      rw [writeEntry, if_neg (Ne.symm absent.1), ih absent.2, List.cons_append]
  exact written map.entries fresh

variable {f : α → Option (κ × β)} {taken : List κ}

/-- Writing new keys only leaves the entries of a map as they are. Behind them come the pairs whose
key is read for the first time, in the order of the readings. -/
theorem entries_insertAllNew (xs : List α) {before : List α} {map : OrderedMap κ β}
    (known : ∀ key, key ∈ map.keys ↔ Taken f taken before key) :
    ∃ added, (map.insertAllNew (xs.filterMap f)).entries = map.entries ++ added ∧
      Gathers (ReadFresh f taken) (spotsFrom before xs) added := by
  induction xs generalizing map before with
  | nil => exact ⟨[], (List.append_nil _).symm, .nil⟩
  | cons x rest ih =>
    cases read : f x with
    | none =>
      obtain ⟨added, entries, gathers⟩ := ih fun key =>
        (known key).trans (taken_append_of_none read key).symm
      rw [List.filterMap_cons_none read]
      refine ⟨added, entries, .skip (fun y fresh => ?_) gathers⟩
      cases read.symm.trans fresh.1
    | some entry =>
      rw [List.filterMap_cons_some read, insertAllNew_cons, insertNew]
      by_cases listed : entry.1 ∈ map.keys
      · have same : ∀ key, key ∈ map.keys ↔ Taken f taken (before ++ [x]) key := by
          intro key
          rw [taken_append_of_some read, ← known key]
          exact ⟨.inl, fun h => h.elim id fun same => same ▸ listed⟩
        obtain ⟨added, entries, gathers⟩ := ih same
        rw [if_pos ((contains_iff_mem_keys map entry.1).mpr listed)]
        refine ⟨added, entries, .skip (fun y fresh => ?_) gathers⟩
        cases read.symm.trans fresh.1
        exact fresh.2 ((known entry.1).mp listed)
      · have grown : ∀ key, key ∈ (map.insert entry.1 entry.2).keys ↔
            Taken f taken (before ++ [x]) key := by
          intro key
          rw [taken_append_of_some read, ← known key, keys_insert, if_neg listed, List.mem_append,
            List.mem_singleton]
        obtain ⟨added, entries, gathers⟩ := ih grown
        have absent : ¬ map.contains entry.1 = true := fun held =>
          listed ((contains_iff_mem_keys map entry.1).mp held)
        rw [if_neg absent]
        refine ⟨entry :: added, ?_, .cons ⟨read, fun old => listed ((known _).mpr old)⟩ gathers⟩
        rw [entries, entries_insert_of_notMem listed, List.append_assoc, List.singleton_append]

end OrderedMap

end ReactiveProps
