import Mathlib.Data.List.Forall2
import ReactiveProps.Proofs.Report

/-!
# Alignment

Two computations are compared through what they have in hand at each step: lists whose elements
match one by one, options that are both there or both missing, outcomes that are both a result or
both an error. `Aligned` also lets the first list have elements that match nothing, its gaps.
-/
namespace ReactiveProps

variable {α β γ δ : Type} {R : α → β → Prop} {S : γ → δ → Prop} {gap : α → Prop}

/-- The elements match in order, apart from gaps in the first list. -/
inductive Aligned (R : α → β → Prop) (gap : α → Prop) : List α → List β → Prop
  | nil : Aligned R gap [] []
  | cons {x : α} {y : β} {xs : List α} {ys : List β} (head : R x y) (tail : Aligned R gap xs ys) :
      Aligned R gap (x :: xs) (y :: ys)
  | skip {x : α} {xs : List α} {ys : List β} (head : gap x) (tail : Aligned R gap xs ys) :
      Aligned R gap (x :: xs) ys

namespace Aligned

instance decidable [∀ x y, Decidable (R x y)] [DecidablePred gap] :
    ∀ xs ys, Decidable (Aligned R gap xs ys)
  | [], [] => .isTrue .nil
  | [], _ :: _ => .isFalse nofun
  | x :: xs, [] =>
    have := decidable xs []
    decidable_of_iff (gap x ∧ Aligned R gap xs [])
      ⟨fun h => .skip h.1 h.2, fun h => by cases h with | skip head tail => exact ⟨head, tail⟩⟩
  | x :: xs, y :: ys =>
    have := decidable xs ys
    have := decidable xs (y :: ys)
    decidable_of_iff (R x y ∧ Aligned R gap xs ys ∨ gap x ∧ Aligned R gap xs (y :: ys))
      ⟨fun h => h.elim (fun h => .cons h.1 h.2) fun h => .skip h.1 h.2, fun h => by
        cases h with
        | cons head tail => exact .inl ⟨head, tail⟩
        | skip head tail => exact .inr ⟨head, tail⟩⟩

variable {xs xs' : List α} {ys ys' : List β}

theorem mono {R' : α → β → Prop} {gap' : α → Prop} (weaker : ∀ x y, R x y → R' x y)
    (wider : ∀ x, gap x → gap' x) (aligned : Aligned R gap xs ys) : Aligned R' gap' xs ys := by
  induction aligned with
  | nil => exact .nil
  | cons head _ ih => exact .cons (weaker _ _ head) ih
  | skip head _ ih => exact .skip (wider _ head) ih

theorem of_forall₂ (matched : List.Forall₂ R xs ys) : Aligned R gap xs ys := by
  induction matched with
  | nil => exact .nil
  | cons head _ ih => exact .cons head ih

theorem forall₂ (full : ∀ x, ¬ gap x) (aligned : Aligned R gap xs ys) : List.Forall₂ R xs ys := by
  induction aligned with
  | nil => exact .nil
  | cons head _ ih => exact .cons head ih
  | skip head => exact absurd head (full _)

/-- A list of gaps matches nothing. -/
theorem of_gaps (each : ∀ x ∈ xs, gap x) : Aligned R gap xs [] := by
  induction xs with
  | nil => exact .nil
  | cons x xs ih =>
    have tail := ih fun y listed => each y (List.mem_cons_of_mem _ listed)
    exact .skip (each x List.mem_cons_self) tail

theorem sublist {zs : List α} (aligned : Aligned Eq gap xs zs) : zs.Sublist xs := by
  induction aligned with
  | nil => exact .slnil
  | @cons x y xs ys head _ ih =>
    subst head
    exact ih.cons_cons x
  | @skip x xs ys _ _ ih => exact ih.cons x

/-- What a filter leaves out is a gap. -/
theorem of_filter {p : α → Bool} (gaps : ∀ x, p x = false → gap x) (xs : List α) :
    Aligned Eq gap xs (xs.filter p) := by
  induction xs with
  | nil => exact .nil
  | cons x rest ih =>
    rw [List.filter_cons]
    cases passes : p x with
    | true => exact .cons rfl ih
    | false => exact .skip (gaps x passes) ih

theorem append (first : Aligned R gap xs ys) (second : Aligned R gap xs' ys') :
    Aligned R gap (xs ++ xs') (ys ++ ys') := by
  induction first with
  | nil => exact second
  | cons head _ ih => exact .cons head ih
  | skip head _ ih => exact .skip head ih

theorem map {gap' : γ → Prop} {f : α → γ} {g : β → δ} (each : ∀ x y, R x y → S (f x) (g y))
    (gaps : ∀ x, gap x → gap' (f x)) (aligned : Aligned R gap xs ys) :
    Aligned S gap' (xs.map f) (ys.map g) := by
  induction aligned with
  | nil => exact .nil
  | cons head _ ih => exact .cons (each _ _ head) ih
  | skip head _ ih => exact .skip (gaps _ head) ih

/-- What matches, and what is a gap, is in the first list. -/
theorem mem (aligned : Aligned R gap xs ys) :
    Aligned (fun x y => x ∈ xs ∧ R x y) (fun x => x ∈ xs ∧ gap x) xs ys := by
  induction aligned with
  | nil => exact .nil
  | cons head _ ih =>
    refine .cons ⟨List.mem_cons_self, head⟩ (ih.mono ?_ ?_)
    · exact fun _ _ h => ⟨List.mem_cons_of_mem _ h.1, h.2⟩
    · exact fun _ h => ⟨List.mem_cons_of_mem _ h.1, h.2⟩
  | skip head _ ih =>
    refine .skip ⟨List.mem_cons_self, head⟩ (ih.mono ?_ ?_)
    · exact fun _ _ h => ⟨List.mem_cons_of_mem _ h.1, h.2⟩
    · exact fun _ h => ⟨List.mem_cons_of_mem _ h.1, h.2⟩

/-- The first elements match, if the first list does not begin with a gap. -/
theorem rel_head? (solid : ∀ x ∈ xs.head?, ¬ gap x) (aligned : Aligned R gap xs ys) :
    Option.Rel R xs.head? ys.head? := by
  cases aligned with
  | nil => exact .none
  | cons head _ => exact .some head
  | skip head _ => exact absurd head (solid _ rfl)

variable {p : α → Bool} {q : β → Bool}

/-- What is found first matches, and both pass the choice. -/
theorem rel_find? (same : ∀ x y, R x y → p x = q y) (no : ∀ x, gap x → p x = false)
    (aligned : Aligned R gap xs ys) :
    Option.Rel (fun x y => R x y ∧ p x = true) (xs.find? p) (ys.find? q) := by
  induction aligned with
  | nil => exact .none
  | @cons x y xs ys head _ ih =>
    rw [List.find?_cons, List.find?_cons, ← same x y head]
    cases passes : p x with
    | true => exact .some ⟨head, passes⟩
    | false => exact ih
  | @skip x xs ys head _ ih =>
    rw [List.find?_cons, no x head]
    exact ih

theorem find?_eq {zs : List α} (no : ∀ x, gap x → p x = false) (aligned : Aligned Eq gap xs zs) :
    xs.find? p = zs.find? p := by
  have found := aligned.rel_find? (fun x y same => congrArg p same) no
  generalize xs.find? p = x, zs.find? p = z at found ⊢
  cases found with
  | none => rfl
  | some same => exact congrArg some same.1

theorem any_eq (same : ∀ x y, R x y → p x = q y) (no : ∀ x, gap x → p x = false)
    (aligned : Aligned R gap xs ys) : xs.any p = ys.any q := by
  induction aligned with
  | nil => rfl
  | @cons x y xs ys head _ ih => rw [List.any_cons, List.any_cons, same x y head, ih]
  | @skip x xs ys head _ ih => rw [List.any_cons, no x head, ih, Bool.false_or]

theorem forall₂_filter (same : ∀ x y, R x y → p x = q y) (no : ∀ x, gap x → p x = false)
    (aligned : Aligned R gap xs ys) :
    List.Forall₂ (fun x y => R x y ∧ p x = true) (xs.filter p) (ys.filter q) := by
  induction aligned with
  | nil => exact .nil
  | @cons x y xs ys head _ ih =>
    rw [List.filter_cons, List.filter_cons, ← same x y head]
    cases passes : p x with
    | true => exact .cons ⟨head, passes⟩ ih
    | false => exact ih
  | @skip x xs ys head _ ih =>
    rw [List.filter_cons, no x head]
    exact ih

theorem filter (same : ∀ x y, R x y → p x = q y) (aligned : Aligned R gap xs ys) :
    Aligned R gap (xs.filter p) (ys.filter q) := by
  induction aligned with
  | nil => exact .nil
  | @cons x y xs ys head _ ih =>
    rw [List.filter_cons, List.filter_cons, same x y head]
    cases q y with
    | true => exact .cons head ih
    | false => exact ih
  | @skip x xs ys head _ ih =>
    rw [List.filter_cons]
    cases p x with
    | true => exact .skip head ih
    | false => exact ih

theorem takeWhile (same : ∀ x y, R x y → p x = q y) (yes : ∀ x, gap x → p x = true)
    (aligned : Aligned R gap xs ys) : Aligned R gap (xs.takeWhile p) (ys.takeWhile q) := by
  induction aligned with
  | nil => exact .nil
  | @cons x y xs ys head _ ih =>
    rw [List.takeWhile_cons, List.takeWhile_cons, same x y head]
    cases q y with
    | true => exact .cons head ih
    | false => exact .nil
  | @skip x xs ys head _ ih =>
    rw [List.takeWhile_cons, yes x head]
    exact .skip head ih

theorem filterMap_eq {f : α → Option γ} {g : β → Option γ} (same : ∀ x y, R x y → f x = g y)
    (no : ∀ x, gap x → f x = none) (aligned : Aligned R gap xs ys) :
    xs.filterMap f = ys.filterMap g := by
  induction aligned with
  | nil => rfl
  | @cons x y xs ys head _ ih => rw [List.filterMap_cons, List.filterMap_cons, same x y head, ih]
  | @skip x xs ys head _ ih => rw [List.filterMap_cons, no x head, ih]

end Aligned

section Lists

variable {xs : List α} {ys : List β} (matched : List.Forall₂ R xs ys)

include matched

theorem rel_head? : Option.Rel R xs.head? ys.head? := by
  cases matched with
  | nil => exact .none
  | cons head _ => exact .some head

theorem map_eq_of_forall₂ {f : α → γ} {g : β → γ} (each : ∀ x y, R x y → f x = g y) :
    xs.map f = ys.map g := by
  induction matched with
  | nil => rfl
  | cons head _ ih => rw [List.map_cons, List.map_cons, each _ _ head, ih]

theorem forall₂_mem : List.Forall₂ (fun x y => x ∈ xs ∧ R x y) xs ys := by
  have aligned : Aligned R (fun _ => False) xs ys := .of_forall₂ matched
  exact aligned.mem.forall₂ fun _ skipped => skipped.2

theorem forall₂_mem_both : List.Forall₂ (fun x y => x ∈ xs ∧ y ∈ ys ∧ R x y) xs ys := by
  refine List.forall₂_iff_zip.mpr ⟨matched.length_eq, fun {x y} zipped => ?_⟩
  obtain ⟨inside, insideToo⟩ := List.of_mem_zip zipped
  exact ⟨inside, insideToo, List.forall₂_zip matched zipped⟩

theorem exists_of_mem {x : α} (listed : x ∈ xs) : ∃ y ∈ ys, R x y := by
  induction matched with
  | nil => cases listed
  | cons head _ ih =>
    rcases List.mem_cons.mp listed with rfl | later
    · exact ⟨_, List.mem_cons_self, head⟩
    · obtain ⟨y, inside, related⟩ := ih later
      exact ⟨y, List.mem_cons_of_mem _ inside, related⟩

theorem exists_of_sublist {xs' : List α} (fewer : xs'.Sublist xs) :
    ∃ ys', List.Forall₂ R xs' ys' ∧ ys'.Sublist ys := by
  induction fewer generalizing ys with
  | slnil => exact ⟨[], .nil, List.nil_sublist ys⟩
  | cons x _ ih =>
    cases matched with
    | cons _ rest =>
      obtain ⟨ys', matched', fewer'⟩ := ih rest
      exact ⟨ys', matched', fewer'.cons _⟩
  | cons_cons x _ ih =>
    cases matched with
    | cons head rest =>
      obtain ⟨ys', matched', fewer'⟩ := ih rest
      exact ⟨_ :: ys', .cons head matched', fewer'.cons_cons _⟩

theorem rel_find?_of_forall₂ {p : α → Bool} {q : β → Bool} (same : ∀ x y, R x y → p x = q y) :
    Option.Rel R (xs.find? p) (ys.find? q) := by
  induction matched with
  | nil => exact .none
  | @cons x y xs ys head _ ih =>
    rw [List.find?_cons, List.find?_cons, ← same x y head]
    cases p x with
    | true => exact .some head
    | false => exact ih

theorem rel_getLast? : Option.Rel R xs.getLast? ys.getLast? := by
  rw [List.getLast?_eq_head?_reverse, List.getLast?_eq_head?_reverse]
  exact rel_head? (List.rel_reverse matched)

theorem forall₂_filterMap {f : α → Option γ} {g : β → Option δ}
    (each : ∀ x y, R x y → Option.Rel S (f x) (g y)) :
    List.Forall₂ S (xs.filterMap f) (ys.filterMap g) :=
  List.rel_filterMap (fun x y => each x y) matched

/-- Where the first reading finds nothing the second may find something. -/
theorem sublist_filterMap_of_forall₂ {f : α → Option γ} {g : β → Option γ}
    (each : ∀ x y, R x y → f x = none ∨ f x = g y) :
    (xs.filterMap f).Sublist (ys.filterMap g) := by
  induction matched with
  | nil => exact .slnil
  | @cons x y xs ys head _ ih =>
    rw [List.filterMap_cons, List.filterMap_cons]
    rcases each x y head with none | same
    · rw [none]
      cases g y with
      | none => exact ih
      | some c => exact ih.cons c
    · rw [same]
      cases g y with
      | none => exact ih
      | some c => exact ih.cons_cons c

omit matched in
/-- What a reading finds in each element of the first list matches the second list. -/
theorem forall₂_filterMap_left {f : α → Option γ} {T : γ → β → Prop}
    (found : List.Forall₂ (fun x y => ∃ c, f x = some c ∧ T c y) xs ys) :
    List.Forall₂ T (xs.filterMap f) ys := by
  induction found with
  | nil => exact .nil
  | cons head _ ih =>
    obtain ⟨c, reads, related⟩ := head
    rw [List.filterMap_cons, reads]
    exact .cons related ih

theorem rel_findSome? {f : α → Option γ} {g : β → Option δ}
    (each : ∀ x y, R x y → Option.Rel S (f x) (g y)) :
    Option.Rel S (xs.findSome? f) (ys.findSome? g) := by
  induction matched with
  | nil => exact .none
  | @cons x y xs ys head _ ih =>
    have first := each x y head
    rw [List.findSome?_cons, List.findSome?_cons]
    generalize f x = found, g y = other at first ⊢
    cases first with
    | some related => exact .some related
    | none => exact ih

end Lists

section Options

instance decidableRelOption [∀ a b, Decidable (R a b)] : ∀ x y, Decidable (Option.Rel R x y)
  | none, none => .isTrue .none
  | some a, some b => decidable_of_iff (R a b) Option.rel_some_some.symm
  | none, some _ => .isFalse nofun
  | some _, none => .isFalse nofun

variable {x : Option α} {y : Option β} (related : Option.Rel R x y)

include related

theorem rel_map {f : α → γ} {g : β → δ} (each : ∀ a b, R a b → S (f a) (g b)) :
    Option.Rel S (x.map f) (y.map g) := by
  cases related with
  | none => exact .none
  | some h => exact .some (each _ _ h)

theorem map_eq_of_rel {f : α → γ} {g : β → γ} (each : ∀ a b, R a b → f a = g b) :
    x.map f = y.map g := by
  cases related with
  | none => rfl
  | some h => exact congrArg some (each _ _ h)

theorem rel_bind {f : α → Option γ} {g : β → Option δ}
    (each : ∀ a b, R a b → Option.Rel S (f a) (g b)) : Option.Rel S (x.bind f) (y.bind g) := by
  cases related with
  | none => exact .none
  | some h => exact each _ _ h

theorem bind_eq_of_rel {f : α → Option γ} {g : β → Option γ}
    (each : ∀ a b, R a b → f a = g b) : x.bind f = y.bind g := by
  cases related with
  | none => rfl
  | some h => exact each _ _ h

theorem rel_optionFilter {p : α → Bool} {q : β → Bool} (same : ∀ a b, R a b → p a = q b) :
    Option.Rel R (x.filter p) (y.filter q) := by
  cases related with
  | none => exact .none
  | @some a b h =>
    rw [Option.filter_some, Option.filter_some, same a b h]
    cases q b with
    | true => exact .some h
    | false => exact .none

theorem any_eq_of_rel {p : α → Bool} {q : β → Bool} (same : ∀ a b, R a b → p a = q b) :
    x.any p = y.any q := by
  cases related with
  | none => rfl
  | some h => exact same _ _ h

theorem isSome_eq_of_rel : x.isSome = y.isSome := by
  cases related with
  | none => rfl
  | some _ => rfl

theorem rel_or {x' : Option α} {y' : Option β} (other : Option.Rel R x' y') :
    Option.Rel R (x.or x') (y.or y') := by
  cases related with
  | none => exact other
  | some h => exact .some h

theorem rel_mono {R' : α → β → Prop} (weaker : ∀ a b, R a b → R' a b) : Option.Rel R' x y := by
  cases related with
  | none => exact .none
  | some h => exact .some (weaker _ _ h)

/-- What is there on the left may be used for the stronger relation. -/
theorem rel_of_mem {R' : α → β → Prop} (each : ∀ a b, x = some a → R a b → R' a b) :
    Option.Rel R' x y := by
  cases related with
  | none => exact .none
  | some h => exact .some (each _ _ rfl h)

omit related in
theorem rel_of_map {f : γ → α} {g : δ → β} {u : Option γ} {v : Option δ}
    (mapped : Option.Rel R (u.map f) (v.map g)) :
    Option.Rel (fun c d => R (f c) (g d)) u v := by
  cases u with
  | none =>
    cases v with
    | none => exact .none
    | some d => nomatch mapped
  | some c =>
    cases v with
    | none => nomatch mapped
    | some d => exact .some (Option.rel_some_some.mp mapped)

end Options

section Outcomes

variable {ε ε' : Type} {E : ε → ε' → Prop}

/-- Both outcomes are a result or both are an error, and they match. -/
inductive EndAlike (E : ε → ε' → Prop) (S : γ → δ → Prop) : Except ε γ → Except ε' δ → Prop
  | ok {c : γ} {d : δ} (value : S c d) : EndAlike E S (.ok c) (.ok d)
  | error {e : ε} {e' : ε'} (fault : E e e') : EndAlike E S (.error e) (.error e')

namespace EndAlike

theorem bind {x : Except ε α} {y : Except ε' β} {f : α → Except ε γ} {g : β → Except ε' δ}
    (first : EndAlike E R x y) (next : ∀ a b, R a b → EndAlike E S (f a) (g b)) :
    EndAlike E S (x.bind f) (y.bind g) := by
  cases first with
  | ok value => exact next _ _ value
  | error fault => exact .error fault

theorem map {x : Except ε α} {y : Except ε' β} {f : α → γ} {g : β → δ}
    (first : EndAlike E R x y) (each : ∀ a b, R a b → S (f a) (g b)) :
    EndAlike E S (x.map f) (y.map g) := by
  cases first with
  | ok value => exact .ok (each _ _ value)
  | error fault => exact .error fault

theorem mapM {xs : List α} {ys : List β} {f : α → Except ε γ} {g : β → Except ε' δ}
    (matched : List.Forall₂ R xs ys) (each : ∀ x y, R x y → EndAlike E S (f x) (g y)) :
    EndAlike E (List.Forall₂ S) (xs.mapM f) (ys.mapM g) := by
  induction matched with
  | nil => exact .ok .nil
  | @cons x y xs ys head _ ih =>
    rw [List.mapM_cons, List.mapM_cons]
    refine (each x y head).bind fun c d value => ?_
    exact ih.bind fun cs ds values => .ok (.cons value values)

/-- Outcomes that can only match as results are results. -/
theorem exists_ok {x : Except ε α} {y : Except ε' β}
    (ends : EndAlike (fun _ _ => False) R x y) : ∃ a b, x = .ok a ∧ y = .ok b ∧ R a b := by
  cases ends with
  | ok value => exact ⟨_, _, rfl, rfl, value⟩
  | error fault => exact fault.elim

end EndAlike

end Outcomes

end ReactiveProps
