import MeshControl.Proofs.Build.Finished
import MeshControl.Proofs.Names
import MeshControl.Proofs.Proxy.References

/-!
In which order clusters are collected. Where they clash, the error names the first that clashes, so
the order counts in general. It does not count for clusters with names of their own: they clash
with none, and all that is left of them is where their names stand in the order of names.
-/
namespace MeshControl

/-- Entries with different keys can be put into a table in any order. -/
theorem Table.insert_comm {α : Type} {j k : String} (hne : j ≠ k) (v w : α) (t : Table α) :
    (t.insert j v).insert k w = (t.insert k w).insert j v := by
  apply ext_find?
  intro i
  simp only [find?_insert]
  split
  · next hk =>
    rw [if_neg]
    rintro rfl
    exact hne hk
  · rfl

namespace Proxy.Cluster

theorem collect_append (found : List (String × Cluster)) (cs ds : List Cluster) :
    collect found (cs ++ ds) = (collect found cs).bind (collect · ds) := by
  induction cs generalizing found with
  | nil => rfl
  | cons c cs ih =>
    rw [List.cons_append, collect, collect]
    split
    · exact ih _
    · split
      · exact ih _
      · rfl

/-- Puts clusters into a table under their names. -/
def insertAll (t : Table Cluster) (cs : List Cluster) : Table Cluster :=
  cs.foldl (fun t c => t.insert c.name c) t

/-- Clusters with new names are all collected. -/
theorem collect_of_new {t : Table Cluster} {cs : List Cluster}
    (hnodup : (cs.map (·.name)).Nodup) (hnew : ∀ c ∈ cs, t.find? c.name = none) :
    collect t.entries cs = .ok (insertAll t cs).entries := by
  induction cs generalizing t with
  | nil => rfl
  | cons c cs ih =>
    obtain ⟨hhead, htail⟩ := List.nodup_cons.mp hnodup
    obtain ⟨hc, hrest⟩ := List.forall_mem_cons.mp hnew
    have hnone : Entries.find? c.name t.entries = none := hc
    rw [collect, hnone]
    refine ih (t := t.insert c.name c) htail fun d hd => ?_
    have hne : d.name ≠ c.name := fun hname => hhead (List.mem_map.mpr ⟨d, hd, hname⟩)
    rw [Table.find?_insert_ne hne, hrest d hd]

theorem insertAll_perm {cs ds : List Cluster} (h : cs.Perm ds) (hnodup : (cs.map (·.name)).Nodup)
    (t : Table Cluster) : insertAll t cs = insertAll t ds := by
  refine h.foldl_eq' (fun c hc d hd u => ?_) t
  by_cases hname : c.name = d.name
  · rw [List.inj_on_of_nodup_map hnodup hc hd hname]
  · exact Table.insert_comm hname c d u

/-- Clusters with names of their own may be collected in any order, between all others. -/
theorem distinct_perm {front own own' : List Cluster} (back : List Cluster) (h : own.Perm own')
    (hnodup : (own.map (·.name)).Nodup) (hnew : ∀ c ∈ own, ∀ d ∈ front, d.name ≠ c.name) :
    distinct (front ++ (own ++ back)) = distinct (front ++ (own' ++ back)) := by
  have hcollect : collect [] (front ++ (own ++ back)) = collect [] (front ++ (own' ++ back)) := by
    rw [collect_append, collect_append]
    cases hfront : collect [] front with
    | error name => rfl
    | ok found =>
      have hnone : ∀ e ∈ ([] : List (String × Cluster)), e.1 = e.2.name :=
        fun e he => absurd he List.not_mem_nil
      obtain ⟨hsorted, hnamed⟩ := pairwise_collect hfront .nil hnone
      let t : Table Cluster := ⟨found, hsorted⟩
      have hfresh : ∀ c ∈ own, t.find? c.name = none := by
        intro c hc
        cases hfind : t.find? c.name with
        | none => rfl
        | some d =>
          have hmem : (c.name, d) ∈ found := Entries.mem_of_find? hfind
          have hd : d ∈ front := (mem_of_mem_collect hfront hmem).resolve_left List.not_mem_nil
          exact absurd (hnamed _ hmem).symm (hnew c hc d hd)
      have hfresh' : ∀ c ∈ own', t.find? c.name = none := fun c hc => hfresh c (h.mem_iff.mpr hc)
      have hnodup' : (own'.map (·.name)).Nodup := (h.map (·.name)).nodup_iff.mp hnodup
      change collect t.entries (own ++ back) = collect t.entries (own' ++ back)
      rw [collect_append, collect_append, collect_of_new hnodup hfresh,
        collect_of_new hnodup' hfresh', insertAll_perm h hnodup]
  rw [distinct, distinct, hcollect]

end Proxy.Cluster

end MeshControl
