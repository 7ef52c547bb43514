import MeshControl.Proofs.Build.Handover
import MeshControl.Proofs.Build.RuleAdded

/-!
What destination policies can change. They are laid over clusters last, when it is settled which
clusters there are and that no two of them clash. So with other policies the same error is found or
the same settings are built, but for how the clusters of services choose hosts and leave them out,
and this too differs only where the policy for the very version differs.
-/
namespace MeshControl

namespace Proxy.Cluster

/-- A cluster that chooses hosts and leaves them out as another does. -/
def tunedAs (c d : Cluster) : Cluster :=
  { c with
    balancing := d.balancing, maxRequestsPerConnection := d.maxRequestsPerConnection
    limits := d.limits, ejection := d.ejection }

end Proxy.Cluster

namespace Rule

open Config

/-- Two stores list the same rules. -/
structure SameRules {σ τ : Type} [Store σ] [Store τ] (s : σ) (t : τ) : Prop where
  routes : (routeRules s).1 = (routeRules t).1
  /-- Ingress rules are listed after the route rules. -/
  ingress : (ingressRules (routeRules s).2).1 = (ingressRules (routeRules t).2).1

/-- Stores in memory that differ in records of policies only list the same rules. -/
theorem sameRules_of_ofType {m n : Memory}
    (h : ∀ type, type ≠ destinationPolicyType → m.ofType type = n.ofType type) :
    SameRules m n where
  routes := by
    rw [routeRules, routeRules, listOf_memory, listOf_memory, h _ (by decide)]
  ingress := by
    change (ingressRules m).1 = (ingressRules n).1
    rw [ingressRules, ingressRules, listOf_memory, listOf_memory, h _ (by decide)]

end Rule

namespace Build

open Proxy Registry Config

/-! ### Two runs side by side -/

/-- Both runs fail with one error, or both succeed with results that are related. -/
inductive Parallel {ε α : Type} (r : α → α → Prop) : Except ε α → Except ε α → Prop
  | error (e : ε) : Parallel r (.error e) (.error e)
  | ok {a b : α} (h : r a b) : Parallel r (.ok a) (.ok b)

namespace Parallel

variable {ε α β : Type} {r : α → α → Prop} {q : β → β → Prop} {x y : Except ε α}

theorem map (h : Parallel r x y) {f g : α → β} (hfg : ∀ a b, r a b → q (f a) (g b)) :
    Parallel q (x.map f) (y.map g) := by
  cases h with
  | error e => exact .error e
  | ok hab => exact .ok (hfg _ _ hab)

theorem of_self (h : ∀ a, x = .ok a → r a a) : Parallel r x x := by
  cases x with
  | error e => exact .error e
  | ok a => exact .ok (h a rfl)

theorem refuse {x y : Except Cluster.Conflict α} (h : Parallel r x y) :
    Parallel r (Build.refuse x) (Build.refuse y) := by
  cases h with
  | error name => exact .error (BuildError.conflict name)
  | ok hab => exact .ok hab

end Parallel

/-! ### One cluster under two policies -/

variable {ρ σ τ : Type} [Directory ρ] [Store σ] [Store τ]
  {policy policy' : String → Tags → Option VersionPolicy}

theorem subset_overlaid (mesh : Mesh) (registry : ρ)
    (policy : String → Tags → Option VersionPolicy) (c : Cluster) :
    (overlaid mesh registry policy c).subset = c.subset := by
  obtain ⟨_, _, _, _, hframe⟩ := applyPolicy_frame policy c
  rw [overlaid, hframe, applyClientTls]
  split
  · split <;> rfl
  · rfl

theorem overlaid_tunedAs (mesh : Mesh) (registry : ρ)
    (policy policy' : String → Tags → Option VersionPolicy) (c : Cluster) :
    (overlaid mesh registry policy c).tunedAs (overlaid mesh registry policy' c) =
      overlaid mesh registry policy' c := by
  obtain ⟨_, _, _, _, hframe⟩ := applyPolicy_frame policy c
  obtain ⟨_, _, _, _, hframe'⟩ := applyPolicy_frame policy' c
  rw [overlaid, overlaid, hframe, hframe', applyClientTls, applyClientTls]
  split
  · cases c.subset <;> rfl
  · rfl

/-- Only the policy for the version that a cluster stands for is looked at. -/
theorem overlaid_congr (mesh : Mesh) (registry : ρ) {c : Cluster}
    (h : ∀ p, c.subset = some p → policy p.hostname p.tags = policy' p.hostname p.tags) :
    overlaid mesh registry policy c = overlaid mesh registry policy' c := by
  have happly : applyPolicy policy c = applyPolicy policy' c := by
    rw [applyPolicy, applyPolicy]
    cases hsubset : c.subset with
    | none => rfl
    | some p => rw [Option.bind_some, Option.bind_some, h p hsubset]
  rw [overlaid, overlaid, happly]

/-! ### Settings under two policies -/

/-- Settings that are the same but for what policies set, and this too where the policies for the
version that a cluster stands for are the same. -/
structure TunedApart (policy policy' : String → Tags → Option VersionPolicy) (a b : Settings) :
    Prop where
  listeners : a.listeners = b.listeners
  routes : a.routes = b.routes
  names : a.clusters.map (·.name) = b.clusters.map (·.name)
  frame : ∀ c ∈ a.clusters, ∀ d ∈ b.clusters, c.name = d.name → c.tunedAs d = d
  /-- The clusters of hosts stand for no version, so they are always the same. -/
  same : ∀ c ∈ a.clusters, ∀ d ∈ b.clusters, c.name = d.name →
    (∀ p, c.subset = some p → policy p.hostname p.tags = policy' p.hostname p.tags) → c = d

theorem TunedApart.refl {s : Settings} (h : s.IsClosed) : TunedApart policy policy' s s where
  listeners := rfl
  routes := rfl
  names := rfl
  frame c hc d hd hname := by rw [h.cluster_eq hc hd hname, Cluster.tunedAs]
  same c hc d hd hname _ := h.cluster_eq hc hd hname

/-- Clusters of one name come from one cluster, over which both policies were laid. -/
theorem tunedApart_of_overlaid (mesh : Mesh) (registry : ρ) {clusters : List Cluster}
    (hnodup : (clusters.map (·.name)).Nodup) (listeners : List Listener) (table : RouteTable) :
    TunedApart policy policy'
      ⟨listeners, clusters.map (overlaid mesh registry policy), table⟩
      ⟨listeners, clusters.map (overlaid mesh registry policy'), table⟩ := by
  have hsource : ∀ c ∈ clusters.map (overlaid mesh registry policy),
      ∀ d ∈ clusters.map (overlaid mesh registry policy'), c.name = d.name →
        ∃ e, c = overlaid mesh registry policy e ∧ d = overlaid mesh registry policy' e := by
    intro c hc d hd hname
    obtain ⟨e, he, rfl⟩ := List.mem_map.mp hc
    obtain ⟨e', he', rfl⟩ := List.mem_map.mp hd
    rw [name_overlaid, name_overlaid] at hname
    obtain rfl := List.inj_on_of_nodup_map hnodup he he' hname
    exact ⟨e, rfl, rfl⟩
  constructor
  case listeners => rfl
  case routes => rfl
  case names =>
    rw [List.map_map, List.map_map]
    refine List.map_congr_left fun c _ => ?_
    rw [Function.comp_apply, Function.comp_apply, name_overlaid, name_overlaid]
  case frame =>
    intro c hc d hd hname
    obtain ⟨e, rfl, rfl⟩ := hsource c hc d hd hname
    exact overlaid_tunedAs mesh registry policy policy' e
  case same =>
    intro c hc d hd hname hpolicy
    obtain ⟨e, rfl, rfl⟩ := hsource c hc d hd hname
    rw [subset_overlaid] at hpolicy
    exact overlaid_congr mesh registry hpolicy

/-- Which clusters there are, and whether two of them clash, is settled before policies are
applied. -/
theorem finishClusters_parallel (mesh : Mesh) (registry : ρ)
    (policy policy' : String → Tags → Option VersionPolicy) (listeners : List Listener)
    (table : RouteTable) (more : List Cluster) :
    Parallel (TunedApart policy policy')
      ((finishClusters mesh registry policy table more).map (⟨listeners, ·, table⟩))
      ((finishClusters mesh registry policy' table more).map (⟨listeners, ·, table⟩)) := by
  have hraw : Parallel (fun cs ds => cs = ds ∧ (cs.map (·.name)).Nodup)
      (Cluster.distinct (table.clusters ++ more)) (Cluster.distinct (table.clusters ++ more)) :=
    .of_self fun cs hcs =>
      ⟨rfl, (Cluster.pairwise_name_distinct hcs).imp fun hlt => String.ne_of_lt hlt⟩
  have hfinished : Parallel
      (fun cs ds => TunedApart policy policy' ⟨listeners, cs, table⟩ ⟨listeners, ds, table⟩)
      (finishClusters mesh registry policy table more)
      (finishClusters mesh registry policy' table more) := by
    refine hraw.map fun cs ds hcs => ?_
    obtain ⟨rfl, hnodup⟩ := hcs
    exact tunedApart_of_overlaid mesh registry hnodup listeners table
  exact hfinished.map fun _ _ h => h

/-- With other policies the same error is found or the same settings are built, but for how
clusters of services choose hosts and leave them out. The policies that count are those that are
held when the rules have been listed. -/
theorem policies_only_tune {s : σ} {t : τ} (h : Rule.SameRules s t) (mesh : Mesh) (registry : ρ)
    (node : Node) :
    Parallel
      (TunedApart (Rule.versionPolicy? (settings mesh registry s node).2)
        (Rule.versionPolicy? (settings mesh registry t node).2))
      (settings mesh registry s node).1 (settings mesh registry t node).1 := by
  rw [settings, settings]
  cases node.role with
  | sidecar =>
    simp only [sidecarSettings]
    cases surroundings registry node with
    | error e => exact .error (BuildError.registry e)
    | ok found =>
      simp only [h.routes, sidecar]
      exact (finishClusters_parallel mesh registry _ _ _ _ _).refuse
  | ingress =>
    simp only [ingressSettings, h.routes, h.ingress]
    cases edgeRoutes mesh registry (edgeRules (Rule.routeRules t).1)
        (Rule.ingressRules (Rule.routeRules t).2).1 with
    | error e => exact .error (BuildError.registry e)
    | ok routes => exact (finishClusters_parallel mesh registry _ _ _ _ _).refuse
  | egress =>
    simp only [egressSettings]
    cases Directory.services registry with
    | error e => exact .error (BuildError.registry e)
    | ok services =>
      have hself : Parallel
          (TunedApart (Rule.versionPolicy? s) (Rule.versionPolicy? t))
          (egress mesh services) (egress mesh services) :=
        .of_self fun a ha => .refl (isClosed_egress ha)
      exact hself.refuse

/-! ### Some policy and none -/

def leastConn : Config.Message := ⟨"pilot.v1.DestinationPolicy", .obj [
  ("destination", .str "reviews.local"),
  ("policy", .arr [.obj [("loadBalancing", .obj [("name", .str "LEAST_CONN")])]])]⟩

def withLeastConn : Config.Memory := ((Config.Memory.new Rule.catalog).post leastConn).2

theorem sameRules_withLeastConn :
    Rule.SameRules (Config.Memory.new Rule.catalog) withLeastConn := by
  refine Rule.sameRules_of_ofType fun type htype => ?_
  have hposted : withLeastConn = (Config.Memory.new Rule.catalog).draw.write
      Rule.destinationPolicyType "reviews.local" ⟨leastConn, "1"⟩ := rfl
  rw [hposted, Rule.ofType_write, if_neg htype]
  rfl

/-- A policy is found for one of the services, and still the settings are the same but for it. -/
theorem leastConn_only_tunes :
    Rule.versionPolicy? withLeastConn "reviews.local" Tags.empty =
        some ⟨Tags.empty, some .leastConn, none⟩ ∧
      ∃ a b, (settings .default (shop 80) (Config.Memory.new Rule.catalog) caller).1 = .ok a ∧
        (settings .default (shop 80) withLeastConn caller).1 = .ok b ∧
        TunedApart (Rule.versionPolicy? (Config.Memory.new Rule.catalog))
          (Rule.versionPolicy? withLeastConn) a b := by
  refine ⟨rfl, ?_⟩
  have hsound : (shop 80).IsSound := Registry.Memory.isSound_afterOperations _
  have hports : Uniform (inboundPorts (shop 80) caller.address.text) := by decide +kernel
  obtain ⟨a, ha⟩ := (settings_new_succeed_iff hsound .default Rule.catalog caller).mpr hports
  have hparallel := policies_only_tune sameRules_withLeastConn .default (shop 80) caller
  rw [ha] at hparallel
  generalize hb : (settings .default (shop 80) withLeastConn caller).1 = y at hparallel
  cases hparallel with
  | ok h => exact ⟨a, _, ha, rfl, h⟩

end Build

end MeshControl
