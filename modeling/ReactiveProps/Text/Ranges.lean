/-!
# Sets of characters by ranges
-/
namespace ReactiveProps.Text

/-- A set of code points as a list of ranges, both ends included. -/
abbrev Ranges := List (Nat × Nat)

def Ranges.has (ranges : Ranges) (c : Char) : Bool :=
  ranges.any fun range => range.1 ≤ c.toNat && c.toNat ≤ range.2

theorem Ranges.has_of_mem {ranges : Ranges} {range : Nat × Nat} {c : Char} (h : range ∈ ranges)
    (hfirst : range.1 ≤ c.toNat) (hlast : c.toNat ≤ range.2) : ranges.has c = true := by
  refine List.any_eq_true.mpr ⟨range, h, ?_⟩
  simp [hfirst, hlast]

end ReactiveProps.Text
