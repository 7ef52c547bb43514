/-!
Sets of characters given as closed intervals of code points.
-/
namespace MeshControl.Text

/-- Whether a character lies in one of the closed intervals. -/
def inRanges (c : Char) (ranges : List (Nat × Nat)) : Bool :=
  ranges.any fun (lo, hi) => lo ≤ c.toNat && c.toNat ≤ hi

theorem inRanges_iff (c : Char) (ranges : List (Nat × Nat)) :
    inRanges c ranges = true ↔ ∃ r ∈ ranges, r.1 ≤ c.toNat ∧ c.toNat ≤ r.2 := by
  simp [inRanges]

end MeshControl.Text
