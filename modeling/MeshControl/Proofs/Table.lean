import Mathlib.Algebra.Ring.Nat
import Mathlib.Data.List.Induction
import Mathlib.Data.List.Sort
import MeshControl.Table

/-!
Lists and tables by what is found in them. Where no key is repeated, what stands under a key is
what is found under it. Two tables with the same finds are one, and a table made of entries with
different keys holds these. A sum over a table changes by what is written.
-/
namespace MeshControl

section Keys

variable {α κ : Type} [DecidableEq κ] {key : α → κ} {l : List α}

/-- Where no key is repeated, an element is the one that is found under its own. -/
theorem find?_eq_some_iff_of_nodup (h : (l.map key).Nodup) {k : κ} {a : α} :
    l.find? (key · == k) = some a ↔ a ∈ l ∧ key a = k := by
  constructor
  · intro hfind
    have hkey := List.find?_some hfind
    exact ⟨List.mem_of_find?_eq_some hfind, by simpa using hkey⟩
  · rintro ⟨ha, rfl⟩
    have hfound : (l.find? (key · == key a)).isSome = true :=
      List.find?_isSome.mpr ⟨a, ha, beq_self_eq_true (key a)⟩
    obtain ⟨b, hb⟩ := Option.isSome_iff_exists.mp hfound
    have hkey := List.find?_some hb
    have hsame : b = a :=
      List.inj_on_of_nodup_map h (List.mem_of_find?_eq_some hb) ha (by simpa using hkey)
    rw [hb, hsame]

theorem filter_eq_toList_find? (h : (l.map key).Nodup) (k : κ) :
    l.filter (key · == k) = (l.find? (key · == k)).toList := by
  induction l with
  | nil => rfl
  | cons a l ih =>
    rw [List.map_cons, List.nodup_cons] at h
    obtain ⟨hnew, hl⟩ := h
    by_cases hk : key a = k
    · have hrest : l.filter (key · == k) = [] := by
        apply List.filter_eq_nil_iff.mpr
        intro b hb hkey
        apply hnew
        rw [hk, ← eq_of_beq hkey]
        exact List.mem_map_of_mem hb
      simp [hk, hrest]
    · simp [hk, ih hl]

/-- Where no key is repeated, what is found under a key is all that stands under it. -/
theorem find?_eq_some_iff_filter_of_nodup (h : (l.map key).Nodup) {k : κ} {a : α} :
    l.find? (key · == k) = some a ↔ l.filter (key · == k) = [a] := by
  rw [filter_eq_toList_find? h, Option.toList_eq_singleton_iff]

end Keys

namespace Entries

variable {α : Type} {l : List (String × α)}

theorem find?_eq_none_of_forall_lt {k : String} (h : ∀ e ∈ l, k < e.1) : find? k l = none := by
  cases hfind : find? k l with
  | none => rfl
  | some v => exact absurd (h _ (mem_of_find? hfind)) (String.lt_irrefl k)

/-- Putting a value changes a sum over the entries by what stood under its key before. -/
theorem sum_put (f : String → α → Nat) (k : String) (v : α)
    (h : l.Pairwise fun a b => a.1 < b.1) :
    ((put textLt k v l).map fun e => f e.1 e.2).sum + ((find? k l).map (f k)).getD 0 =
      (l.map fun e => f e.1 e.2).sum + f k v := by
  induction l with
  | nil => simp [put, find?]
  | cons e l ih =>
    obtain ⟨k', v'⟩ := e
    obtain ⟨hhead, htail⟩ := List.pairwise_cons.mp h
    rw [put]
    split
    · next hlt =>
      have hlt : k < k' := of_decide_eq_true hlt
      have hfirst : ∀ e ∈ (k', v') :: l, k < e.1 := by
        intro e he
        rcases List.mem_cons.mp he with rfl | he
        · exact hlt
        · exact String.lt_trans hlt (hhead e he)
      rw [find?_eq_none_of_forall_lt hfirst]
      simp [Nat.add_comm]
    · split
      · next heq =>
        subst heq
        simp only [find?, if_true, List.map_cons, List.sum_cons, Option.map_some,
          Option.getD_some]
        omega
      · next hne =>
        have hrest := ih htail
        simp only [find?, if_neg hne, List.map_cons, List.sum_cons]
        omega

end Entries

namespace Table

variable {α : Type}

def total (t : Table α) (f : String → α → Nat) : Nat := (t.toList.map fun e => f e.1 e.2).sum

theorem total_insert (t : Table α) (f : String → α → Nat) (k : String) (v : α) :
    (t.insert k v).total f + ((t.find? k).map (f k)).getD 0 = t.total f + f k v :=
  Entries.sum_put f k v t.sorted

theorem ext_find? {s t : Table α} (h : ∀ k, s.find? k = t.find? k) : s = t := by
  apply ext
  have hmem : ∀ e, e ∈ s.entries ↔ e ∈ t.entries := by
    rintro ⟨k, v⟩
    rw [← toList, ← toList, mem_toList_iff, mem_toList_iff, h k]
  have : Std.Irrefl fun a b : String × α => a.1 < b.1 := ⟨fun a => String.lt_irrefl a.1⟩
  have : Std.Antisymm fun a b : String × α => a.1 < b.1 :=
    ⟨fun a b hab hba => absurd hba (String.lt_asymm hab)⟩
  exact s.sorted.eq_of_mem_iff t.sorted hmem

theorem erase_insert (k : String) (v : α) (t : Table α) : (t.insert k v).erase k = t.erase k := by
  apply ext_find?
  intro j
  simp only [find?_erase, find?_insert]
  split <;> rfl

theorem erase_erase (k : String) (t : Table α) : (t.erase k).erase k = t.erase k := by
  apply ext_find?
  intro j
  simp only [find?_erase]
  split <;> rfl

/-- A table made of entries with different keys holds these. -/
theorem find?_ofList {l : List (String × α)} (hkeys : (l.map (·.1)).Nodup) (k : String) (v : α) :
    (ofList l).find? k = some v ↔ (k, v) ∈ l := by
  induction l using List.reverseRecOn with
  | nil => simp [ofList]
  | append_singleton l e ih =>
    obtain ⟨k', v'⟩ := e
    have hfold : ofList (l ++ [(k', v')]) = (ofList l).insert k' v' := by
      simp [ofList, List.foldl_append]
    rw [List.map_append, List.nodup_append] at hkeys
    obtain ⟨hl, -, hne⟩ := hkeys
    rw [hfold, find?_insert, List.mem_append, List.mem_singleton, Prod.mk.injEq]
    split
    · next hk =>
      subst hk
      have hout : (k, v) ∉ l := fun hmem =>
        hne k (List.mem_map.mpr ⟨_, hmem, rfl⟩) k (by simp) rfl
      simp [hout, eq_comm]
    · next hk => simp [ih hl, hk]

theorem ofList_of_perm {t : Table α} {l : List (String × α)} (h : l.Perm t.toList) :
    ofList l = t := by
  have hkeys : (t.toList.map (·.1)).Nodup :=
    List.pairwise_map.mpr (t.sorted.imp fun hlt => String.ne_of_lt hlt)
  have hkeys' : (l.map (·.1)).Nodup := (h.map (·.1)).nodup_iff.mpr hkeys
  apply ext_find?
  intro k
  apply Option.ext
  intro v
  rw [find?_ofList hkeys', h.mem_iff, mem_toList_iff]

end Table

end MeshControl
