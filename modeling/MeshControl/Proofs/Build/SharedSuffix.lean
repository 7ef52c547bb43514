import MeshControl.Build.Destination
import Mathlib.Order.Bounds.Defs

/-!
The labels that hostnames share at their ends. What is shared by some names is said by the lists of
labels in which all of them end: the shared suffix is the longest of these, and it is the same in
whatever order and however often the names come. It is cut out of the first name step by step, and
no cut asks for more labels than are left.
-/
namespace MeshControl.Build

theorem prefix_take_shared {α : Type} [BEq α] [LawfulBEq α] {u p q : List α} :
    u <+: p.take ((p.zip q).takeWhile fun (x, y) => x == y).length ↔ u <+: p ∧ u <+: q := by
  induction p generalizing u q with
  | nil =>
    rw [List.take_nil, List.prefix_nil]
    exact ⟨fun h => ⟨h, h ▸ List.nil_prefix⟩, And.left⟩
  | cons x p ih =>
    cases q with
    | nil =>
      rw [List.zip_nil_right, List.takeWhile_nil, List.length_nil, List.take_zero, List.prefix_nil]
      exact ⟨fun h => ⟨h ▸ List.nil_prefix, h⟩, And.right⟩
    | cons y q =>
      cases u with
      | nil => simp
      | cons w u =>
        rw [List.zip_cons_cons, List.takeWhile_cons]
        by_cases hsame : x = y
        · subst hsame
          simp only [beq_self_eq_true, if_true]
          rw [List.length_cons, List.take_succ_cons, List.cons_prefix_cons, ih,
            List.cons_prefix_cons, List.cons_prefix_cons]
          exact and_and_left
        · simp only [beq_false_of_ne hsame, Bool.false_eq_true, if_false]
          rw [List.length_nil, List.take_zero, List.prefix_nil, List.cons_prefix_cons,
            List.cons_prefix_cons]
          refine iff_of_false (List.cons_ne_nil _ _) ?_
          rintro ⟨⟨rfl, -⟩, rfl, -⟩
          exact hsame rfl

theorem sharedAtEnd_le (a b : List String) :
    sharedAtEnd a b ≤ a.length ∧ sharedAtEnd a b ≤ b.length := by
  have htake : sharedAtEnd a b ≤ (a.reverse.zip b.reverse).length :=
    (List.takeWhile_sublist _).length_le
  rw [List.length_zip, List.length_reverse, List.length_reverse] at htake
  omega

theorem suffix_drop_iff {t a b : List String} :
    t <:+ a.drop (a.length - sharedAtEnd a b) ↔ t <:+ a ∧ t <:+ b := by
  rw [← List.reverse_prefix, List.reverse_drop, Nat.sub_sub_self (sharedAtEnd_le a b).1,
    sharedAtEnd, prefix_take_shared, List.reverse_prefix, List.reverse_prefix]

/-- The common suffix is the longest of all. -/
theorem suffix_commonSuffix_iff {t first : List String} {rest : List (List String)} :
    t <:+ commonSuffix (first :: rest) ↔ ∀ l ∈ first :: rest, t <:+ l := by
  rw [commonSuffix]
  induction rest generalizing first with
  | nil => simp
  | cons l rest ih =>
    rw [List.foldl_cons, ih, List.forall_mem_cons, suffix_drop_iff, List.forall_mem_cons,
      List.forall_mem_cons, and_assoc]

/-- Two lists that end in each other are equal, so the common suffix is settled by which lists there
are. -/
theorem commonSuffix_congr {ls ks : List (List String)} (h : ∀ l, l ∈ ls ↔ l ∈ ks) :
    commonSuffix ls = commonSuffix ks := by
  cases ls with
  | nil =>
    have hnone : ∀ k, k ∉ ks := fun k hk => List.not_mem_nil ((h k).mpr hk)
    rw [List.eq_nil_iff_forall_not_mem.mpr hnone]
  | cons l ls =>
    cases ks with
    | nil => exact absurd ((h l).mp List.mem_cons_self) List.not_mem_nil
    | cons k ks =>
      have hsame : ∀ t, t <:+ commonSuffix (l :: ls) ↔ t <:+ commonSuffix (k :: ks) := by
        intro t
        rw [suffix_commonSuffix_iff, suffix_commonSuffix_iff]
        exact forall_congr' fun m => by rw [h]
      have hleft := (hsame _).mp (List.suffix_refl _)
      have hright := (hsame _).mpr (List.suffix_refl _)
      exact hleft.eq_of_length_le hright.length_le

theorem commonSuffix_perm {ls ks : List (List String)} (h : ls.Perm ks) :
    commonSuffix ls = commonSuffix ks :=
  commonSuffix_congr fun _ => h.mem_iff

theorem sharedSuffix_congr {hostnames others : List String}
    (h : ∀ name, name ∈ others ↔ name ∈ hostnames) :
    sharedSuffix others = sharedSuffix hostnames := by
  apply commonSuffix_congr
  intro l
  rw [List.mem_map, List.mem_map]
  exact exists_congr fun name => and_congr_left' (h name)

theorem suffix_sharedSuffix_of_ne_nil {t : List String} {hostnames : List String}
    (h : hostnames ≠ []) :
    t <:+ sharedSuffix hostnames ↔ ∀ name ∈ hostnames, t <:+ labels name := by
  obtain ⟨name, rest, rfl⟩ := List.exists_cons_of_ne_nil h
  rw [sharedSuffix, List.map_cons, suffix_commonSuffix_iff, ← List.map_cons (f := labels),
    List.forall_mem_map]

theorem suffix_sharedSuffix_iff {t : List String} {hostnames : List String} :
    t <:+ sharedSuffix hostnames ↔
      t = [] ∨ hostnames ≠ [] ∧ ∀ name ∈ hostnames, t <:+ labels name := by
  cases hostnames with
  | nil => simp [sharedSuffix, commonSuffix]
  | cons name rest =>
    rw [suffix_sharedSuffix_of_ne_nil (List.cons_ne_nil _ _)]
    constructor
    · intro h
      exact .inr ⟨List.cons_ne_nil _ _, h⟩
    · rintro (rfl | ⟨-, h⟩)
      · exact fun _ _ => List.nil_suffix
      · exact h

/-- The last labels of two names agree as far as they are shared. -/
theorem drop_sharedAtEnd (a b : List String) :
    a.drop (a.length - sharedAtEnd a b) = b.drop (b.length - sharedAtEnd a b) := by
  obtain ⟨ha, hb⟩ := sharedAtEnd_le a b
  have hsuffix : a.drop (a.length - sharedAtEnd a b) <:+ b :=
    (suffix_drop_iff.mp (List.suffix_refl _)).2
  rw [List.suffix_iff_eq_drop] at hsuffix
  rw [hsuffix, List.length_drop]
  congr 1
  omega

/-- Two names share as many labels at their ends as there are in the longest list that both end
in. -/
theorem isGreatest_sharedAtEnd (a b : List String) :
    IsGreatest {n | ∃ t : List String, t.length = n ∧ t <:+ a ∧ t <:+ b} (sharedAtEnd a b) := by
  have hle := (sharedAtEnd_le a b).1
  constructor
  · refine ⟨a.drop (a.length - sharedAtEnd a b), ?_, suffix_drop_iff.mp (List.suffix_refl _)⟩
    rw [List.length_drop]
    omega
  · rintro n ⟨t, rfl, hta, htb⟩
    have hlength := (suffix_drop_iff.mpr ⟨hta, htb⟩).length_le
    rw [List.length_drop] at hlength
    omega

/-! ### Cuts in range -/

/-- The last `n` labels, if there are as many. -/
def lastLabels? (n : Nat) (l : List String) : Option (List String) :=
  if n ≤ l.length then some (l.drop (l.length - n)) else none

/-- The common suffix where every cut is checked and one out of range gives no result. -/
def commonSuffix? : List (List String) → Option (List String)
  | [] => some []
  | first :: rest => rest.foldlM (fun shared l => lastLabels? (sharedAtEnd shared l) shared) first

theorem lastLabels?_sharedAtEnd (shared l : List String) :
    lastLabels? (sharedAtEnd shared l) shared =
      some (shared.drop (shared.length - sharedAtEnd shared l)) :=
  if_pos (sharedAtEnd_le shared l).1

/-- No cut on the way to the common suffix is out of range. -/
theorem commonSuffix?_eq (ls : List (List String)) : commonSuffix? ls = some (commonSuffix ls) := by
  cases ls with
  | nil => rfl
  | cons first rest =>
    rw [commonSuffix?, commonSuffix]
    simp only [lastLabels?_sharedAtEnd]
    exact List.foldlM_pure

/-! ### The greatest shared suffix -/

/-- The shared suffix of some hostnames is the greatest list of labels in which all of them end, and
any list of the same hostnames, in another order or with repetitions, has it too. No two lists share
more labels than either has, so it is reached without a cut that is out of range. -/
theorem sharedSuffix_greatest (hostnames : List String) (h : hostnames ≠ []) :
    (∀ name ∈ hostnames, sharedSuffix hostnames <:+ labels name) ∧
      (∀ t, (∀ name ∈ hostnames, t <:+ labels name) → t <:+ sharedSuffix hostnames) ∧
      (∀ others : List String, (∀ name, name ∈ others ↔ name ∈ hostnames) →
        sharedSuffix others = sharedSuffix hostnames) ∧
      (∀ a b, sharedAtEnd a b ≤ a.length ∧ sharedAtEnd a b ≤ b.length) ∧
      commonSuffix? (hostnames.map labels) = some (sharedSuffix hostnames) := by
  have hshared : ∀ t, t <:+ sharedSuffix hostnames ↔ ∀ name ∈ hostnames, t <:+ labels name :=
    fun _ => suffix_sharedSuffix_of_ne_nil h
  exact ⟨(hshared _).mp (List.suffix_refl _), fun t => (hshared t).mpr,
    fun _ => sharedSuffix_congr, sharedAtEnd_le, commonSuffix?_eq _⟩

/-- Names whose texts end alike within a label share only the whole labels behind it. -/
theorem sharedSuffix_greatest_of_three :
    let hostnames := ["cart.v1.mesh.local", "web.dev1.mesh.local", "old.web.dev1.mesh.local"]
    let others := ["old.web.dev1.mesh.local", "cart.v1.mesh.local", "web.dev1.mesh.local",
      "cart.v1.mesh.local"]
    sharedSuffix hostnames = ["mesh", "local"] ∧ sharedSuffix others = ["mesh", "local"] ∧
      ["mesh", "local"] <:+ labels "old.web.dev1.mesh.local" ∧
      ["local"] <:+ sharedSuffix hostnames ∧
      commonSuffix? (hostnames.map labels) = some ["mesh", "local"] := by
  intro hostnames others
  have hvalue : sharedSuffix hostnames = ["mesh", "local"] := by decide +kernel
  have hsub : others ⊆ hostnames := by decide +kernel
  have hsup : hostnames ⊆ others := by decide +kernel
  have hsame : ∀ name, name ∈ others ↔ name ∈ hostnames := fun _ => ⟨(hsub ·), (hsup ·)⟩
  have hlocal : ∀ name ∈ hostnames, ["local"] <:+ labels name := by decide +kernel
  obtain ⟨hsuffix, hgreatest, hother, -, hchecked⟩ :=
    sharedSuffix_greatest hostnames (List.cons_ne_nil _ _)
  refine ⟨hvalue, (hother others hsame).trans hvalue, ?_, hgreatest _ hlocal, ?_⟩
  · rw [← hvalue]
    exact hsuffix _ (by simp [hostnames])
  · rw [hchecked, hvalue]

end MeshControl.Build
