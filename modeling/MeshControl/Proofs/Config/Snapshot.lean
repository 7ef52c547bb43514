import MeshControl.Config.Controller

/-!
Lists of records in the order of their keys. A list that repeats no key is strictly increasing
once it is sorted, and in such a list halving the range finds every record that is there.
-/
namespace MeshControl.Config

/-- Each key is greater than the one before, so none stands twice. -/
def SortedByKey (l : List Record) : Prop := l.Pairwise fun a b => a.key < b.key

theorem perm_sortByKey (l : List Record) : (Fragile.sortByKey l).Perm l :=
  List.mergeSort_perm l fun a b => !textLt b.key a.key

theorem pairwise_sortByKey (l : List Record) :
    (Fragile.sortByKey l).Pairwise fun a b => a.key ≤ b.key :=
  pairwise_mergeSort_text Record.key l

theorem sortedByKey_sortByKey {l : List Record} (h : (l.map (·.key)).Nodup) :
    SortedByKey (Fragile.sortByKey l) := by
  have hdistinct : (Fragile.sortByKey l).Pairwise fun a b => a.key ≠ b.key := by
    have hperm := (perm_sortByKey l).map (·.key)
    exact List.pairwise_map.mp (hperm.nodup_iff.mpr h)
  refine (pairwise_sortByKey l).imp₂ (fun a b hle hne => ?_) hdistinct
  exact Decidable.byContradiction fun hlt => hne (String.le_antisymm hle (String.not_lt.mp hlt))

namespace SortedByKey

variable {l : List Record} {key : String} {r s : Record}

theorem key_lt (h : SortedByKey l) {i j : Nat} (hi : l[i]? = some r) (hj : l[j]? = some s)
    (hlt : i < j) : r.key < s.key := by
  obtain ⟨hilen, rfl⟩ := List.getElem?_eq_some_iff.mp hi
  obtain ⟨hjlen, rfl⟩ := List.getElem?_eq_some_iff.mp hj
  exact List.pairwise_iff_getElem.mp h i j hilen hjlen hlt

theorem not_key_lt (h : SortedByKey l) {i j : Nat} (hi : l[i]? = some r) (hj : l[j]? = some s)
    (hle : i ≤ j) : ¬ s.key < r.key := by
  rcases Nat.lt_or_eq_of_le hle with hlt | rfl
  · exact String.lt_asymm (h.key_lt hi hj hlt)
  · rw [Option.some.inj (hi.symm.trans hj)]
    exact String.lt_irrefl s.key

/-- Halving keeps the position of the key inside the range, whatever it compares with. -/
theorem narrow_eq (h : SortedByKey l) {j : Nat} (hj : l[j]? = some r) (fuel base size : Nat)
    (hfuel : size ≤ fuel) (hlow : base ≤ j) (hhigh : j < base + size) :
    Controller.narrow l r.key fuel base size = j := by
  induction fuel generalizing base size with
  | zero => omega
  | succ fuel ih =>
    rw [Controller.narrow]
    split
    · omega
    · next hsize =>
      simp only
      have hbound : j < l.length := (List.getElem?_eq_some_iff.mp hj).1
      cases hmid : l[base + size / 2]? with
      | none =>
        have hend : l.length ≤ base + size / 2 := List.getElem?_eq_none_iff.mp hmid
        exact ih base (size - size / 2) (by omega) hlow (by omega)
      | some m =>
        by_cases hside : j < base + size / 2
        · have hgreater : textLt r.key m.key = true := decide_eq_true (h.key_lt hj hmid hside)
          simp only [hgreater, if_true]
          exact ih base (size - size / 2) (by omega) hlow (by omega)
        · have hgreater : textLt r.key m.key = false :=
            decide_eq_false (h.not_key_lt hmid hj (Nat.le_of_not_lt hside))
          simp only [hgreater, Bool.false_eq_true, if_false]
          exact ih (base + size / 2) (size - size / 2) (by omega) (by omega) (by omega)

/-- Searching finds exactly the records of the list. -/
theorem search_eq_some_iff (h : SortedByKey l) :
    Controller.search l key = some r ↔ r ∈ l ∧ r.key = key := by
  constructor
  · intro hfound
    obtain ⟨hat, hkey⟩ := Option.filter_eq_some_iff.mp hfound
    exact ⟨List.mem_of_getElem? hat, beq_iff_eq.mp hkey⟩
  · rintro ⟨hmem, rfl⟩
    obtain ⟨j, hj⟩ := List.mem_iff_getElem?.mp hmem
    have hbound : j < l.length := (List.getElem?_eq_some_iff.mp hj).1
    rw [Controller.search,
      h.narrow_eq hj l.length 0 l.length (Nat.le_refl _) (Nat.zero_le _) (by omega), hj]
    exact Option.filter_eq_some_iff.mpr ⟨rfl, beq_self_eq_true _⟩

theorem search_eq_none_iff (h : SortedByKey l) :
    Controller.search l key = none ↔ ∀ r ∈ l, r.key ≠ key := by
  rw [Option.eq_none_iff_forall_ne_some]
  constructor
  · intro hnone r hr hkey
    exact hnone r (h.search_eq_some_iff.mpr ⟨hr, hkey⟩)
  · intro hnone r hfound
    obtain ⟨hr, hkey⟩ := h.search_eq_some_iff.mp hfound
    exact hnone r hr hkey

end SortedByKey

end MeshControl.Config
