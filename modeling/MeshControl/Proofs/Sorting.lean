import Mathlib.Order.Compare

/-!
Stable sorting. A list is sorted, and what the sort takes to be alike stays in the order that it
had before; so whatever was known of that order is still known among what is alike.
-/
namespace MeshControl

/-- Elements that a sort takes to be alike stay in whatever order they had. -/
theorem pairwise_mergeSort_stable {α : Type} {le : α → α → Bool} {R : α → α → Prop}
    (htrans : ∀ a b c, le a b = true → le b c = true → le a c = true)
    (htotal : ∀ a b, (le a b || le b a) = true) {l : List α} (h : l.Pairwise R) :
    (l.mergeSort le).Pairwise fun a b => le a b = true ∧ (le b a = true → R a b) := by
  refine (List.pairwise_mergeSort htrans htotal l).and ?_
  induction l with
  | nil => simp
  | cons first l ih =>
    obtain ⟨hhead, htail⟩ := List.pairwise_cons.mp h
    -- the first element goes behind all that is smaller and before all that it is like
    obtain ⟨smaller, rest, hsorted, hold, hsmaller⟩ := List.mergeSort_cons htrans htotal first l
    have hbefore := ih htail
    rw [hold] at hbefore
    rw [hsorted]
    obtain ⟨hsmallerPairs, hrestPairs, hacross⟩ := List.pairwise_append.mp hbefore
    have hrest : ∀ b ∈ rest, le b first = true → R first b := by
      intro b hb _
      have hmem : b ∈ l.mergeSort le := by
        rw [hold]
        exact List.mem_append_right _ hb
      exact hhead b (List.mem_mergeSort.mp hmem)
    apply List.pairwise_append.mpr
    refine ⟨hsmallerPairs, List.pairwise_cons.mpr ⟨hrest, hrestPairs⟩, ?_⟩
    intro a ha b hb
    rcases List.mem_cons.mp hb with rfl | hb
    · intro hle
      have hnot := hsmaller a ha
      rw [hle] at hnot
      cases hnot
    · exact hacross a ha b hb

/-- Sorting by a comparison keeps the order of elements that compare equal. -/
theorem pairwise_mergeSort_cmp {α : Type} {cmp : α → α → Ordering} [Std.TransCmp cmp]
    {R : α → α → Prop} {l : List α} (h : l.Pairwise R) :
    (l.mergeSort fun a b => cmp a b != .gt).Pairwise fun a b =>
      (cmp a b).isLE = true ∧ (cmp a b = .eq → R a b) := by
  have hle : ∀ a b, (cmp a b != .gt) = (cmp a b).isLE := by
    intro a b
    cases cmp a b <;> rfl
  have hswap : ∀ a b, cmp b a = (cmp a b).swap := fun a b => Std.OrientedCmp.eq_swap
  simp only [hle]
  refine (pairwise_mergeSort_stable ?_ ?_ h).imp ?_
  · exact fun a b c hab hbc => Std.TransCmp.isLE_trans hab hbc
  · intro a b
    rw [hswap a b]
    cases cmp a b <;> rfl
  · intro a b hab
    refine ⟨hab.1, fun heq => hab.2 ?_⟩
    rw [hswap a b, heq]
    rfl

/-- What is found first stands before everything else that could have been found. -/
theorem eq_or_rel_of_find? {α : Type} {R : α → α → Prop} {p : α → Bool} {l : List α} {a b : α}
    (hl : l.Pairwise R) (hfind : l.find? p = some a) (hb : b ∈ l) (hp : p b = true) :
    b = a ∨ R a b := by
  obtain ⟨-, before, after, rfl, hbefore⟩ := List.find?_eq_some_iff_append.mp hfind
  rcases List.mem_append.mp hb with hb | hb
  · have hnot := hbefore b hb
    rw [hp] at hnot
    cases hnot
  · rcases List.mem_cons.mp hb with rfl | hb
    · exact .inl rfl
    · exact .inr ((List.pairwise_cons.mp (List.pairwise_append.mp hl).2.1).1 b hb)

end MeshControl
