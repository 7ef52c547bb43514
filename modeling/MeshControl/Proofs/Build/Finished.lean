import MeshControl.Proofs.Build.Contributions
import MeshControl.Proofs.Build.Success

/-!
What the clusters of finished settings are. A cluster either stands for a part of a mesh service,
which proxies find by discovery, or for a fixed host. Policies and encryption are laid over
clusters of the first kind only, and change neither the part nor the key it is found under.
-/
namespace MeshControl

namespace Proxy

/-- The key under which the instances of a part of a service are asked for. -/
def Subset.key (t : Subset) : String := ServiceKey.encode t.hostname [t.port.name] [t.tags]

/-- A cluster of fixed hosts, which no service of the mesh stands behind. -/
structure Cluster.IsFixed (c : Cluster) : Prop where
  serviceName : c.serviceName = none
  subset : c.subset = none
  resolution : c.resolution ≠ .sds
  tls : c.tls = none

theorem Cluster.mem_of_mem_collect {found all : List (String × Cluster)} {cs : List Cluster}
    (h : collect found cs = .ok all) {e : String × Cluster} (he : e ∈ all) :
    e ∈ found ∨ e.2 ∈ cs := by
  induction cs generalizing found with
  | nil => exact .inl (Except.ok.inj h ▸ he)
  | cons c cs ih =>
    rw [collect] at h
    split at h
    · rcases ih h with hput | hrest
      · rcases Entries.mem_put hput with rfl | hold
        · exact .inr List.mem_cons_self
        · exact .inl hold
      · exact .inr (List.mem_cons_of_mem _ hrest)
    · split at h
      · exact (ih h).imp_right (List.mem_cons_of_mem _)
      · cases h

/-- Nothing that was found or is to come is lost. -/
theorem Cluster.find?_of_collect {found all : List (String × Cluster)} {cs : List Cluster}
    (h : collect found cs = .ok all) :
    (∀ name c, Entries.find? name found = some c → Entries.find? name all = some c) ∧
      ∀ c ∈ cs, Entries.find? c.name all = some c := by
  induction cs generalizing found with
  | nil =>
    obtain rfl := Except.ok.inj h
    exact ⟨fun _ _ hc => hc, fun _ hc => absurd hc List.not_mem_nil⟩
  | cons c cs ih =>
    rw [List.forall_mem_cons]
    rw [collect] at h
    split at h
    · next hnew =>
      obtain ⟨hput, hrest⟩ := ih h
      refine ⟨fun name d hd => hput name d ?_, hput _ _ (Entries.find?_put_self ..), hrest⟩
      have hne : name ≠ c.name := by
        rintro rfl
        rw [hnew] at hd
        cases hd
      rw [Entries.find?_put_ne _ hne, hd]
    · next d hd =>
      split at h
      · next hsame =>
        obtain ⟨hfound, hrest⟩ := ih h
        exact ⟨hfound, hfound _ _ (hsame ▸ hd), hrest⟩
      · cases h

theorem Cluster.mem_distinct_iff {cs l : List Cluster} (h : distinct cs = .ok l) {c : Cluster} :
    c ∈ l ↔ c ∈ cs := by
  obtain ⟨all, hall, rfl⟩ := exists_of_map_eq_ok h
  constructor
  · intro hc
    obtain ⟨e, he, rfl⟩ := List.mem_map.mp hc
    exact (mem_of_mem_collect hall he).resolve_left List.not_mem_nil
  · intro hc
    have hfind := (find?_of_collect hall).2 c hc
    exact List.mem_map.mpr ⟨(c.name, c), Entries.mem_of_find? hfind, rfl⟩

end Proxy

namespace Build

open Proxy Registry Config

variable {ρ σ : Type} [Directory ρ] [Store σ]

/-- What policies and encryption make of a cluster. -/
def overlaid (mesh : Mesh) (registry : ρ) (policy : String → Tags → Option VersionPolicy)
    (c : Cluster) : Cluster :=
  if mesh.isMutualTls then applyClientTls mesh registry (applyPolicy policy c)
  else applyPolicy policy c

/-- How callers of a part of a service are encrypted. -/
def tlsFor (mesh : Mesh) (registry : ρ) (t : Subset) : Option ClientTls :=
  if mesh.isMutualTls then
    some (clientTls mesh (Directory.accounts registry t.hostname [t.port.name]))
  else none

/-- The finished cluster of a part of a service. -/
structure StandsFor (mesh : Mesh) (registry : ρ) (c : Cluster) (t : Subset) : Prop where
  serviceName : c.serviceName = some t.key
  subset : c.subset = some t
  resolution : c.resolution = .sds
  tls : c.tls = tlsFor mesh registry t

theorem applyPolicy_fixed {policy : String → Tags → Option VersionPolicy} {c : Cluster}
    (h : c.subset = none) : applyPolicy policy c = c := by
  rw [applyPolicy, h]
  rfl

theorem overlaid_fixed (mesh : Mesh) (registry : ρ)
    (policy : String → Tags → Option VersionPolicy) {c : Cluster} (h : c.IsFixed) :
    overlaid mesh registry policy c = c := by
  rw [overlaid, applyPolicy_fixed h.subset, applyClientTls, h.subset]
  exact ite_self c

theorem isFixed_overlaid (mesh : Mesh) (registry : ρ)
    (policy : String → Tags → Option VersionPolicy) {c : Cluster} (h : c.IsFixed) :
    (overlaid mesh registry policy c).IsFixed := by
  rw [overlaid_fixed mesh registry policy h]
  exact h

/-- A policy sets how hosts are chosen and left out, nothing else. -/
theorem applyPolicy_frame (policy : String → Tags → Option VersionPolicy) (c : Cluster) :
    ∃ balancing requests limits ejection, applyPolicy policy c =
      { c with
        balancing := balancing, maxRequestsPerConnection := requests
        limits := limits, ejection := ejection } := by
  rw [applyPolicy]
  split
  · rw [withPolicy]
    split <;> split <;> exact ⟨_, _, _, _, rfl⟩
  · exact ⟨_, _, _, _, rfl⟩

theorem standsFor_overlaid (mesh : Mesh) (registry : ρ)
    (policy : String → Tags → Option VersionPolicy) (t : Subset) :
    StandsFor mesh registry (overlaid mesh registry policy (targetCluster mesh t)) t := by
  obtain ⟨_, _, _, _, hframe⟩ := applyPolicy_frame policy (targetCluster mesh t)
  rw [overlaid, hframe, targetCluster]
  split
  · next hmutual => exact ⟨rfl, rfl, rfl, (if_pos hmutual).symm⟩
  · next hmutual => exact ⟨rfl, rfl, rfl, (if_neg hmutual).symm⟩

/-! ### Clusters before they are finished -/

theorem isFixed_ofHost (name : String) (connectMillis : Nat) (host : String) (http2 : Bool) :
    (Cluster.ofHost name connectMillis host http2).IsFixed :=
  ⟨rfl, rfl, nofun, rfl⟩

theorem isFixed_inboundCluster (mesh : Mesh) (port : Nat) (protocol : Protocol) :
    (inboundCluster mesh port protocol).IsFixed :=
  ⟨rfl, rfl, nofun, rfl⟩

theorem isFixed_of_mem_mixerClusters {mesh : Mesh} {c : Cluster} (h : c ∈ mixerClusters mesh) :
    c.IsFixed := by
  obtain ⟨address, -, rfl⟩ := Option.map_eq_some_iff.mp (Option.mem_toList.mp h)
  exact ⟨rfl, rfl, nofun, rfl⟩

theorem isFixed_of_inbound? {mesh : Mesh} {address : String} {port : Nat} {protocol : Protocol}
    {checked : Bool} {l : Listener} {c : Cluster}
    (h : inbound? mesh address port protocol checked = some (l, c)) : c.IsFixed := by
  rw [(cases_of_inbound? h).2.1]
  exact isFixed_inboundCluster mesh port protocol

theorem isFixed_of_mem_checks {mesh : Mesh} {ip : String} {instances : List Instance}
    {ports : List Port} {c : Cluster}
    (h : c ∈ (managementInbound mesh ip instances ports).map (·.2)) : c.IsFixed := by
  obtain ⟨⟨l, c⟩, hmem, rfl⟩ := List.mem_map.mp h
  obtain ⟨p, -, hp⟩ := List.mem_filterMap.mp hmem
  exact isFixed_of_inbound? hp

theorem isFixed_of_mem_own {mesh : Mesh} {instances : List Instance} {c : Cluster}
    (h : c ∈ (instances.filterMap (instanceInbound? mesh)).map (·.2)) : c.IsFixed := by
  obtain ⟨⟨l, c⟩, hmem, rfl⟩ := List.mem_map.mp h
  obtain ⟨i, -, hi⟩ := List.mem_filterMap.mp hmem
  obtain ⟨plain, hplain, -⟩ := exists_plain_of_instanceInbound? hi
  exact isFixed_of_inbound? hplain

theorem of_refuse {α : Type} {r : Except Cluster.Conflict α} {a : α} (h : refuse r = .ok a) :
    r = .ok a := by
  cases r with
  | error e => cases h
  | ok b => rw [Except.ok.inj h]

theorem mem_finishClusters {mesh : Mesh} {registry : ρ}
    {policy : String → Tags → Option VersionPolicy} {table : RouteTable} {more l : List Cluster}
    (h : finishClusters mesh registry policy table more = .ok l) {c : Cluster} :
    c ∈ l ↔ ∃ d ∈ table.clusters ++ more, overlaid mesh registry policy d = c := by
  obtain ⟨clusters, hdistinct, rfl⟩ := exists_of_map_eq_ok h
  simp only [← Cluster.mem_distinct_iff hdistinct]
  exact List.mem_map

/-! ### Finished clusters -/

/-- Every cluster of a sidecar stands for a target of its rules and services, or for a host. -/
theorem mem_clusters_sidecar {mesh : Mesh} {registry : ρ}
    {policy : String → Tags → Option VersionPolicy} {node : Node} {instances : List Instance}
    {services : List Service} {rules : List RouteRule} {s : Settings}
    (h : sidecar mesh registry policy node instances services rules = .ok s) {c : Cluster}
    (hc : c ∈ s.clusters) :
    (∃ t ∈ sidecarTargets services rules, StandsFor mesh registry c t) ∨ c.IsFixed := by
  obtain ⟨clusters, hclusters, rfl⟩ := exists_of_map_eq_ok h
  obtain ⟨d, hd, rfl⟩ := (mem_finishClusters hclusters).mp hc
  have hfixed : d.IsFixed → (overlaid mesh registry policy d).IsFixed :=
    isFixed_overlaid mesh registry policy
  rw [mem_append_regroup mem_outbound_clusters] at hd
  rcases List.mem_append.mp hd with hout | hin
  · rcases List.mem_append.mp hout with htarget | hescape
    · obtain ⟨t, ht, rfl⟩ := List.mem_map.mp htarget
      exact .inl ⟨t, ht, standsFor_overlaid mesh registry policy t⟩
    · obtain ⟨e, -, rfl⟩ := List.mem_map.mp hescape
      exact .inr (hfixed (isFixed_ofHost _ _ _ _))
  · rcases List.mem_append.mp hin with hports | hmixer
    · rcases List.mem_append.mp hports with hown | hchecks
      · exact .inr (hfixed (isFixed_of_mem_own hown))
      · exact .inr (hfixed (isFixed_of_mem_checks hchecks))
    · exact .inr (hfixed (isFixed_of_mem_mixerClusters hmixer))

/-- Every target of a sidecar has a cluster. -/
theorem exists_mem_clusters_sidecar {mesh : Mesh} {registry : ρ}
    {policy : String → Tags → Option VersionPolicy} {node : Node} {instances : List Instance}
    {services : List Service} {rules : List RouteRule} {s : Settings}
    (h : sidecar mesh registry policy node instances services rules = .ok s) {t : Subset}
    (ht : t ∈ sidecarTargets services rules) : ∃ c ∈ s.clusters, StandsFor mesh registry c t := by
  obtain ⟨clusters, hclusters, rfl⟩ := exists_of_map_eq_ok h
  have htarget : targetCluster mesh t ∈ (sidecarTargets services rules).map (targetCluster mesh) :=
    List.mem_map_of_mem ht
  refine ⟨_, (mem_finishClusters hclusters).mpr ⟨targetCluster mesh t, ?_, rfl⟩,
    standsFor_overlaid mesh registry policy t⟩
  rw [mem_append_regroup mem_outbound_clusters]
  exact List.mem_append_left _ (List.mem_append_left _ htarget)

/-- Every cluster of an ingress proxy stands for a target of its routes, or for the mixer. -/
theorem mem_clusters_ingress {mesh : Mesh} {registry : ρ}
    {policy : String → Tags → Option VersionPolicy} {node : Node} {routes : List EdgeRoute}
    (hroutes : ∀ d ∈ routes.flatMap (·.route.clusters), ∃ t, d = targetCluster mesh t)
    {s : Settings} (h : ingress mesh registry policy node routes = .ok s) {c : Cluster}
    (hc : c ∈ s.clusters) :
    (∃ t, targetCluster mesh t ∈ routes.flatMap (·.route.clusters) ∧
      StandsFor mesh registry c t) ∨ c.IsFixed := by
  obtain ⟨clusters, hclusters, rfl⟩ := exists_of_map_eq_ok h
  obtain ⟨d, hd, rfl⟩ := (mem_finishClusters hclusters).mp hc
  rcases List.mem_append.mp hd with htable | hmixer
  · have hmem := mem_clusters_edgeTable.mp htable
    obtain ⟨t, rfl⟩ := hroutes d hmem
    exact .inl ⟨t, hmem, standsFor_overlaid mesh registry policy t⟩
  · exact .inr (isFixed_overlaid mesh registry policy (isFixed_of_mem_mixerClusters hmixer))

/-- The routes of ingress rules lead to targets. -/
theorem exists_target_of_edgeRoutes {mesh : Mesh} {registry : ρ} {rules : List RouteRule}
    {ingressRules : List IngressRule} {routes : List EdgeRoute}
    (h : edgeRoutes mesh registry rules ingressRules = .ok routes) :
    ∀ d ∈ routes.flatMap (·.route.clusters), ∃ t, d = targetCluster mesh t := by
  intro d hd
  obtain ⟨e, he, hd⟩ := List.mem_flatMap.mp hd
  obtain ⟨g, -, s, p, hroute⟩ := exists_edgeRoute?_of_mem_edgeRoutes h he
  have hclusters := clusters_edgeRoute? mesh rules s p g.rule
  rw [hroute, Option.map_some, eq_comm] at hclusters
  obtain ⟨lender, -, hsent⟩ := Option.map_eq_some_iff.mp hclusters
  rw [← hsent] at hd
  obtain ⟨t, -, rfl⟩ := List.mem_map.mp hd
  exact ⟨t, rfl⟩

theorem isFixed_of_mem_outsideRoutes {mesh : Mesh} {services : List Service} {c : Cluster}
    (h : c ∈ (egressConfig mesh services).clusters) : c.IsFixed := by
  obtain ⟨v, hv, r, hr, hc⟩ := RouteConfig.mem_clusters_ofHosts.mp h
  obtain ⟨service, -, hv⟩ := List.mem_flatMap.mp hv
  rw [outsideHosts] at hv
  split at hv
  · cases hv
  · obtain ⟨p, -, rfl⟩ := List.mem_map.mp hv
    obtain rfl := List.mem_singleton.mp hr
    obtain rfl := List.mem_singleton.mp hc
    exact isFixed_ofHost _ _ _ _

theorem isFixed_of_mem_egress {mesh : Mesh} {services : List Service} {s : Settings}
    (h : egress mesh services = .ok s) {c : Cluster} (hc : c ∈ s.clusters) : c.IsFixed := by
  obtain ⟨clusters, hclusters, rfl⟩ := exists_of_map_eq_ok h
  exact isFixed_of_mem_outsideRoutes ((Cluster.mem_distinct_iff hclusters).mp hc)

/-- A finished cluster stands for a part of a mesh service or for a host, whatever the proxy. -/
theorem standsFor_or_isFixed {mesh : Mesh} {registry : ρ} {store : σ} {node : Node}
    {s : Settings} (h : (settings mesh registry store node).1 = .ok s) {c : Cluster}
    (hc : c ∈ s.clusters) : (∃ t, StandsFor mesh registry c t) ∨ c.IsFixed := by
  rw [settings] at h
  split at h
  · rw [sidecarSettings] at h
    split at h
    · cases h
    · obtain ⟨t, -, ht⟩ | hfixed := mem_clusters_sidecar (of_refuse h) hc
      · exact .inl ⟨t, ht⟩
      · exact .inr hfixed
  · rw [ingressSettings] at h
    simp only at h
    split at h
    · cases h
    · next routes hroutes =>
      obtain ⟨t, -, ht⟩ | hfixed :=
        mem_clusters_ingress (exists_target_of_edgeRoutes hroutes) (of_refuse h) hc
      · exact .inl ⟨t, ht⟩
      · exact .inr hfixed
  · rw [egressSettings] at h
    split at h
    · cases h
    · exact .inr (isFixed_of_mem_egress (of_refuse h) hc)

end Build

end MeshControl
