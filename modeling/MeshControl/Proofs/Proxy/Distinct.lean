import MeshControl.Proofs.Build.Finished
import MeshControl.Proofs.Proxy.Agreement
import MeshControl.Proofs.Proxy.References

/-!
Clusters by name, each once. A list of clusters has such a normal form exactly if its clusters of
one name are equal. The normal form is a matter of which clusters there are, so order and
repetition do not count and it is its own normal form; where there is none, the error names a
cluster that two different ones claim to be.
-/
namespace MeshControl.Proxy.Cluster

variable {cs ds l : List Cluster}

/-- What has a normal form is strictly increasing by name. -/
theorem sorted_of_distinct (h : distinct cs = .ok l) : l.Pairwise fun c d => c.name < d.name :=
  List.pairwise_map.mp (pairwise_name_distinct h)

/-- Clusters in strict order of names are determined by which clusters they are. -/
theorem eq_of_mem_iff_of_sorted {k : List Cluster} (hk : k.Pairwise fun c d => c.name < d.name)
    (hl : l.Pairwise fun c d => c.name < d.name) (hmem : ∀ c, c ∈ k ↔ c ∈ l) : k = l := by
  have : Std.Irrefl fun c d : Cluster => c.name < d.name := ⟨fun c => String.lt_irrefl c.name⟩
  have : Std.Antisymm fun c d : Cluster => c.name < d.name :=
    ⟨fun _ _ hcd hdc => absurd hdc (String.lt_asymm hcd)⟩
  exact hk.eq_of_mem_iff hl hmem

/-- Neither the order of clusters nor how often each occurs makes a difference. -/
theorem distinct_congr (hmem : ∀ c, c ∈ ds ↔ c ∈ cs) (h : distinct cs = .ok l) :
    distinct ds = .ok l := by
  have hagree : Agree ds := (agree_congr hmem).mpr ((distinct_succeeds_iff cs).mp ⟨l, h⟩)
  obtain ⟨k, hk⟩ := (distinct_succeeds_iff ds).mpr hagree
  have hsame : ∀ c, c ∈ k ↔ c ∈ l := fun c => by
    rw [mem_distinct_iff hk, mem_distinct_iff h, hmem]
  rw [hk, eq_of_mem_iff_of_sorted (sorted_of_distinct hk) (sorted_of_distinct h) hsame]

/-- The error names a cluster that comes and differs from the one that is there: it was found
before, or it came earlier. -/
theorem conflict_of_collect {found : List (String × Cluster)} {name : String}
    (h : collect found cs = .error name) :
    ∃ c ∈ cs, c.name = name ∧ ∃ d, d ≠ c ∧ ((name, d) ∈ found ∨ d ∈ cs ∧ d.name = name) := by
  induction cs generalizing found with
  | nil => cases h
  | cons c cs ih =>
    rw [collect] at h
    split at h
    · -- `c` is the first of its name, so a later clash may be with `c`.
      obtain ⟨e, he, hename, d, hne, hd⟩ := ih h
      refine ⟨e, List.mem_cons_of_mem c he, hename, d, hne, ?_⟩
      rcases hd with hput | ⟨hd, hdname⟩
      · rcases Entries.mem_put hput with heq | hold
        · obtain ⟨hname, rfl⟩ := Prod.mk.inj heq
          exact .inr ⟨List.mem_cons_self, hname.symm⟩
        · exact .inl hold
      · exact .inr ⟨List.mem_cons_of_mem c hd, hdname⟩
    · next d hd =>
      split at h
      · obtain ⟨e, he, hename, d, hne, hd⟩ := ih h
        exact ⟨e, List.mem_cons_of_mem c he, hename, d, hne,
          hd.imp_right fun hd => ⟨List.mem_cons_of_mem c hd.1, hd.2⟩⟩
      · next hne =>
        have hname : c.name = name := Except.error.inj h
        exact ⟨c, List.mem_cons_self, hname, d, hne, .inl (hname ▸ Entries.mem_of_find? hd)⟩

/-- The error names two clusters of the list that differ. -/
theorem conflict_of_distinct {name : String} (h : distinct cs = .error name) :
    ∃ c ∈ cs, ∃ d ∈ cs, c ≠ d ∧ c.name = name ∧ d.name = name := by
  have hcollect : collect [] cs = .error name := by
    rw [distinct] at h
    cases hall : collect [] cs with
    | ok all =>
      rw [hall] at h
      cases h
    | error other =>
      rw [hall] at h
      rw [Except.error.inj h]
  obtain ⟨c, hc, hcname, d, hne, hd⟩ := conflict_of_collect hcollect
  obtain ⟨hd, hdname⟩ := hd.resolve_left List.not_mem_nil
  exact ⟨c, hc, d, hd, hne.symm, hcname, hdname⟩

/-- Clusters have a normal form exactly if any two of one name are equal. It holds these clusters
and no others in strict order of their names, all lists of the same clusters have it, and it is its
own. An error carries the name of two clusters that differ. -/
theorem distinct_normalizes (cs : List Cluster) :
    ((∃ l, distinct cs = .ok l) ↔ ∀ c ∈ cs, ∀ d ∈ cs, c.name = d.name → c = d) ∧
      (∀ l, distinct cs = .ok l →
        (l.Pairwise fun c d => c.name < d.name) ∧ (∀ c, c ∈ l ↔ c ∈ cs) ∧
          (∀ ds : List Cluster, (∀ c, c ∈ ds ↔ c ∈ cs) → distinct ds = .ok l) ∧
          distinct l = .ok l) ∧
      ∀ name, distinct cs = .error name →
        ∃ c ∈ cs, ∃ d ∈ cs, c ≠ d ∧ c.name = name ∧ d.name = name := by
  refine ⟨distinct_succeeds_iff cs, fun l h => ?_, fun name h => conflict_of_distinct h⟩
  have hmem : ∀ c, c ∈ l ↔ c ∈ cs := fun c => mem_distinct_iff h
  exact ⟨sorted_of_distinct h, hmem, fun ds hds => distinct_congr hds h, distinct_congr hmem h⟩

/-- Of two clusters, one given twice, both are kept, and given in another order they come out the
same. A third that takes the name of one of them is refused under this name. -/
theorem distinct_normalizes_of_two :
    distinct [named "b" 5, named "a" 5, named "b" 5] = .ok [named "a" 5, named "b" 5] ∧
      distinct [named "a" 5, named "b" 5] = .ok [named "a" 5, named "b" 5] ∧
      distinct [named "b" 5, named "a" 5, named "b" 9] = .error "b" ∧
      ∃ c ∈ [named "b" 5, named "a" 5, named "b" 9], ∃ d ∈ [named "b" 5, named "a" 5, named "b" 9],
        c ≠ d ∧ c.name = "b" ∧ d.name = "b" := by
  have htwice : distinct [named "b" 5, named "a" 5, named "b" 5] =
      .ok [named "a" 5, named "b" 5] := rfl
  have hclash : distinct [named "b" 5, named "a" 5, named "b" 9] = .error "b" := rfl
  obtain ⟨-, hnormal, -⟩ := distinct_normalizes [named "b" 5, named "a" 5, named "b" 5]
  obtain ⟨-, -, -, hitself⟩ := hnormal _ htwice
  obtain ⟨-, -, hnamed⟩ := distinct_normalizes [named "b" 5, named "a" 5, named "b" 9]
  exact ⟨htwice, hitself, hclash, hnamed "b" hclash⟩

end MeshControl.Proxy.Cluster
