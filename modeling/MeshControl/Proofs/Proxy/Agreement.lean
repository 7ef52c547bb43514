import Mathlib.Logic.Basic
import MeshControl.Proxy.Route

/-!
When clusters can be told to one proxy together. They are collected by name, and this succeeds
exactly when all clusters of one name are equal, so it does not depend on their order or on how
often each occurs.
-/
namespace MeshControl.Proxy

namespace Cluster

/-- All clusters of one name are equal. -/
def Agree (cs : List Cluster) : Prop := ∀ c ∈ cs, ∀ d ∈ cs, c.name = d.name → c = d

instance (cs : List Cluster) : Decidable (Agree cs) :=
  inferInstanceAs (Decidable (∀ c ∈ cs, ∀ d ∈ cs, c.name = d.name → c = d))

theorem agree_cons_iff (c : Cluster) (cs : List Cluster) :
    Agree (c :: cs) ↔ (∀ d ∈ cs, d.name = c.name → d = c) ∧ Agree cs := by
  constructor
  · intro h
    have hhead : ∀ d ∈ cs, d.name = c.name → d = c := fun d hd =>
      h d (List.mem_cons_of_mem _ hd) c List.mem_cons_self
    have htail : Agree cs := fun d hd e he =>
      h d (List.mem_cons_of_mem _ hd) e (List.mem_cons_of_mem _ he)
    exact ⟨hhead, htail⟩
  · rintro ⟨hhead, htail⟩ d hd e he hname
    rcases List.mem_cons.mp hd with rfl | hd'
    · rcases List.mem_cons.mp he with rfl | he'
      · rfl
      · exact (hhead e he' hname.symm).symm
    · rcases List.mem_cons.mp he with rfl | he'
      · exact hhead d hd' hname
      · exact htail d hd' e he' hname

/-- The clusters found before take part: those to come must equal the one found under their
name. -/
theorem collect_succeeds_iff (found : List (String × Cluster)) (cs : List Cluster) :
    (∃ all, collect found cs = .ok all) ↔
      (∀ c ∈ cs, ∀ d, Entries.find? c.name found = some d → c = d) ∧ Agree cs := by
  induction cs generalizing found with
  | nil => simp [collect, Agree]
  | cons c cs ih =>
    rw [agree_cons_iff, List.forall_mem_cons]
    cases hfound : Entries.find? c.name found with
    | none =>
      simp only [collect, hfound]
      rw [ih]
      have hput : (∀ d ∈ cs, ∀ e,
          Entries.find? d.name (Entries.put textLt c.name c found) = some e → d = e) ↔
            (∀ d ∈ cs, ∀ e, Entries.find? d.name found = some e → d = e) ∧
              ∀ d ∈ cs, d.name = c.name → d = c := by
        rw [← forall₂_and]
        refine forall₂_congr fun d hd => ?_
        by_cases hname : d.name = c.name
        · rw [hname, Entries.find?_put_self, hfound]
          simp
        · rw [Entries.find?_put_ne _ hname]
          simp [hname]
      rw [hput]
      simp [and_assoc]
    | some d =>
      by_cases heq : d = c
      · subst heq
        simp only [collect, hfound, if_pos]
        rw [ih]
        constructor
        · rintro ⟨hold, hagree⟩
          refine ⟨⟨by simp, hold⟩, fun e he hname => ?_, hagree⟩
          exact hold e he d (hname ▸ hfound)
        · rintro ⟨⟨-, hold⟩, -, hagree⟩
          exact ⟨hold, hagree⟩
      · simp only [collect, hfound, if_neg heq]
        constructor
        · rintro ⟨all, hall⟩
          cases hall
        · rintro ⟨⟨hhead, -⟩, -⟩
          exact absurd (hhead d rfl).symm heq

theorem distinct_succeeds_iff (cs : List Cluster) : (∃ l, distinct cs = .ok l) ↔ Agree cs := by
  have hcollect := collect_succeeds_iff [] cs
  simp only [Entries.find?, reduceCtorEq, false_implies, implies_true, true_and] at hcollect
  rw [← hcollect, distinct]
  cases collect [] cs <;> simp [Except.map]

theorem agree_append_iff (cs ds : List Cluster) :
    Agree (cs ++ ds) ↔ Agree cs ∧ Agree ds ∧ ∀ c ∈ cs, ∀ d ∈ ds, c.name = d.name → c = d := by
  induction cs with
  | nil => simp [Agree]
  | cons c cs ih =>
    rw [List.cons_append, agree_cons_iff, agree_cons_iff, ih]
    simp only [List.mem_append, List.forall_mem_cons]
    grind

theorem agree_congr {cs ds : List Cluster} (h : ∀ c, c ∈ cs ↔ c ∈ ds) : Agree cs ↔ Agree ds := by
  simp only [Agree, h]

end Cluster

/-! ### The clusters of routes -/

theorem RouteConfig.mem_clusters_ofHosts {hosts : List VirtualHost} {c : Cluster} :
    c ∈ (ofHosts hosts).clusters ↔ ∃ v ∈ hosts, ∃ r ∈ v.routes, c ∈ r.clusters := by
  simp only [clusters, routes, ofHosts, List.mem_flatMap, List.mem_mergeSort]
  grind

/-- Virtual hosts that are grouped by port keep their clusters. -/
theorem RouteTable.mem_clusters_group {lt : Nat → Nat → Bool} {hosts : List (Nat × VirtualHost)}
    {c : Cluster} :
    c ∈ clusters ((Entries.group lt hosts).map fun (port, hosts) => (port, .ofHosts hosts)) ↔
      ∃ port v, (port, v) ∈ hosts ∧ ∃ r ∈ v.routes, c ∈ r.clusters := by
  have hgroup : c ∈ clusters
      ((Entries.group lt hosts).map fun (port, hosts) => (port, .ofHosts hosts)) ↔
        ∃ port vs, (port, vs) ∈ Entries.group lt hosts ∧
          ∃ v ∈ vs, ∃ r ∈ v.routes, c ∈ r.clusters := by
    simp only [clusters, List.mem_flatMap, List.mem_map, Prod.exists]
    constructor
    · rintro ⟨port', config, ⟨port, vs, hvs, heq⟩, hc⟩
      obtain ⟨rfl, rfl⟩ := Prod.mk.inj heq
      exact ⟨port, vs, hvs, RouteConfig.mem_clusters_ofHosts.mp hc⟩
    · rintro ⟨port, vs, hvs, hc⟩
      exact ⟨port, _, ⟨port, vs, hvs, rfl⟩, RouteConfig.mem_clusters_ofHosts.mpr hc⟩
  rw [hgroup]
  constructor
  · rintro ⟨port, vs, hvs, v, hv, hc⟩
    exact ⟨port, v, Entries.exists_mem_group_iff.mp ⟨vs, hvs, hv⟩, hc⟩
  · rintro ⟨port, v, hmem, hc⟩
    obtain ⟨vs, hvs, hv⟩ := Entries.exists_mem_group_iff.mpr hmem
    exact ⟨port, vs, hvs, v, hv, hc⟩

end MeshControl.Proxy
