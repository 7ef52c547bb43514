import MeshControl.Config.Memory
import MeshControl.Proofs.Build.Clusters
import MeshControl.Proofs.Registry.Operations

/-!
When the settings of a proxy can be built. The only failure is that two clusters of one name
differ, and clusters meet only within their kinds: among the targets, between targets and
services outside the mesh, and among the ports of a workload or outside. So with no rules at all
it is the registry alone that decides.
-/
namespace MeshControl.Build

open Proxy Registry

variable {registry : Registry.Memory}

/-- The rules that apply to the workload of a sidecar. -/
def sidecarRules (registry : Registry.Memory) (store : Config.Memory) (node : Node) :
    List RouteRule :=
  Rule.fromSource (registry.instancesAt [node.address.text]) (Rule.routeRules store).1

/-- The rules in force at each port, for any proxy. -/
def senders (registry : Registry.Memory) (store : Config.Memory) (node : Node) :
    List (RouteRule × Port) :=
  match node.role with
  | .sidecar => sidecarSenders registry.services.values (sidecarRules registry store node)
  | .ingress =>
    (Rule.ingressRules store).1.filterMap
      (edgeSender? registry.services (edgeRules (Rule.routeRules store).1))
  | .egress => []

/-- The services that a proxy reaches without a rule. -/
def defaults (registry : Registry.Memory) (store : Config.Memory) (node : Node) : List Subset :=
  match node.role with
  | .sidecar => sidecarDefaults registry.services.values (sidecarRules registry store node)
  | .ingress | .egress => []

/-- Where a proxy sends requests, but for the services behind the egress proxy. -/
def targets (registry : Registry.Memory) (store : Config.Memory) (node : Node) : List Subset :=
  sentTo (senders registry store node) ++ defaults registry store node

/-- The services that a proxy reaches through the egress proxy. -/
def escapesFrom (mesh : Mesh) (registry : Registry.Memory) (node : Node) : List Subset :=
  match node.role with
  | .sidecar => escapes mesh registry.services.values
  | .ingress | .egress => []

/-- What a proxy needs of the registry alone. -/
def RegistryAgrees (registry : Registry.Memory) (node : Node) : Prop :=
  match node.role with
  | .sidecar => Uniform (inboundPorts registry node.address.text)
  | .ingress => True
  | .egress => Uniform (outsidePorts registry)

theorem senders_of_sidecar (registry : Registry.Memory) (store : Config.Memory) {node : Node}
    (hrole : node.role = .sidecar) :
    senders registry store node =
      sidecarSenders registry.services.values (sidecarRules registry store node) := by
  rw [senders, hrole]

theorem targets_of_sidecar (registry : Registry.Memory) (store : Config.Memory) {node : Node}
    (hrole : node.role = .sidecar) :
    targets registry store node =
      sidecarTargets registry.services.values (sidecarRules registry store node) := by
  rw [targets, senders_of_sidecar _ _ hrole, defaults, hrole]
  rfl

theorem of_mem_escapes {mesh : Mesh} {services : List Service} {e : Subset}
    (he : e ∈ escapes mesh services) :
    ∃ s p, (s ∈ services ∧ s.isExternal = true) ∧ p ∈ s.ports ∧ e = wholeService s p := by
  rw [escapes] at he
  split at he
  · obtain ⟨⟨s, p⟩, hmem, rfl⟩ := List.mem_map.mp he
    obtain ⟨hs, hp, -⟩ := mem_portsWhere.mp hmem
    exact ⟨s, p, hs, hp, rfl⟩
  · cases he

theorem isChecked_escapes (hr : registry.IsSound) {mesh : Mesh} {e : Subset}
    (he : e ∈ escapes mesh registry.services.values) : e.IsChecked := by
  obtain ⟨s, p, ⟨hs, -⟩, hp, rfl⟩ := of_mem_escapes he
  exact isChecked_wholeService (hr.validate hs) hp

/-- A registered service and its port are known by their names. -/
theorem eq_of_sharesName (hr : registry.IsSound) {s t : Service} {p q : Port}
    (hs : s ∈ registry.services.values) (ht : t ∈ registry.services.values) (hp : p ∈ s.ports)
    (hq : q ∈ t.ports) (h : (wholeService s p).SharesName (wholeService t q)) : s = t ∧ p = q := by
  obtain rfl := hr.service_eq hs ht h.1
  exact ⟨rfl, Service.port_eq_of_name (hr.validate hs) hp hq h.2.1⟩

/-- Services outside the mesh never share a name. -/
theorem agree_escapes (hr : registry.IsSound) (mesh : Mesh) :
    Cluster.Agree ((escapes mesh registry.services.values).map (escapeCluster mesh)) := by
  rw [agree_map_iff]
  intro e he f hf hname
  have hshared : e.SharesName f :=
    (outboundName_inj (isChecked_escapes hr he) (isChecked_escapes hr hf)).mp hname
  obtain ⟨s, p, ⟨hs, -⟩, hp, rfl⟩ := of_mem_escapes he
  obtain ⟨t, q, ⟨ht, -⟩, hq, rfl⟩ := of_mem_escapes hf
  obtain ⟨rfl, rfl⟩ := eq_of_sharesName hr hs ht hp hq hshared
  rfl

theorem mem_targets_sidecar {services : List Service} {rules : List RouteRule} {t : Subset} :
    t ∈ sidecarTargets services rules ↔
      (∃ s p, (s, p) ∈ portsWhere false Protocol.isHttp services ∧ t ∈ requestTargets rules s p) ∨
        ∃ s p, (s, p) ∈ portsWhere false Protocol.isTcp services ∧ t = wholeService s p := by
  simp only [sidecarTargets, List.mem_append, mem_sentTo, mem_sidecarSenders,
    mem_sidecarDefaults, mem_requestTargets]
  grind

theorem isChecked_sidecarTargets (hr : registry.IsSound) {rules : List RouteRule}
    (hrules : AllChecked rules) {t : Subset}
    (ht : t ∈ sidecarTargets registry.services.values rules) : t.IsChecked := by
  rcases mem_targets_sidecar.mp ht with ⟨s, p, hmem, hreq⟩ | ⟨s, p, hmem, rfl⟩
  · obtain ⟨⟨hs, -⟩, hp, -⟩ := mem_portsWhere.mp hmem
    have hvalid := hr.validate hs
    rcases mem_requestTargets.mp hreq with ⟨rule, hrule, hsent⟩ | ⟨-, rfl⟩
    · have hname := (Service.ports_of_validate hvalid).2 p hp
      exact isChecked_ruleTargets (hrules rule (mem_of_mem_rulesInForce hrule)) hname hsent
    · exact isChecked_wholeService hvalid hp
  · obtain ⟨⟨hs, -⟩, hp, -⟩ := mem_portsWhere.mp hmem
    exact isChecked_wholeService (hr.validate hs) hp

/-- Clusters whose names start differently do not meet. -/
theorem apart_of_head {cs ds : List Cluster} {a b : Char} (hne : a ≠ b)
    (hc : ∀ c ∈ cs, c.name.toList.head? = some a) (hd : ∀ d ∈ ds, d.name.toList.head? = some b) :
    ∀ c ∈ cs, ∀ d ∈ ds, c.name = d.name → c = d := by
  intro c hmem d hmem' hname
  have hhead : some a = some b := by rw [← hc c hmem, hname, hd d hmem']
  exact absurd (Option.some.inj hhead) hne

theorem head_outboundName (hostname : String) (port : Port) (tags : Tags) :
    (outboundName hostname port tags).toList.head? = some 'o' := by
  rw [toList_outboundName]
  rfl

theorem head_inboundCluster (mesh : Mesh) (port : Nat) (protocol : Protocol) :
    (inboundCluster mesh port protocol).name.toList.head? = some 'i' := by
  simp [inboundCluster, Cluster.named, ToString.toString]

theorem head_mixerClusters {mesh : Mesh} {c : Cluster} (h : c ∈ mixerClusters mesh) :
    c.name.toList.head? = some 'm' := by
  obtain ⟨address, -, rfl⟩ := Option.map_eq_some_iff.mp (Option.mem_toList.mp h)
  simp [mixerCluster, Cluster.ofHost, Cluster.named, mixerClusterName]

theorem agree_mixerClusters (mesh : Mesh) : Cluster.Agree (mixerClusters mesh) := by
  rw [mixerClusters]
  cases mesh.mixerAddress <;> simp [Cluster.Agree]

theorem head_of_mem_targets {mesh : Mesh} {targets : List Subset} {c : Cluster}
    (hc : c ∈ targets.map (targetCluster mesh)) : c.name.toList.head? = some 'o' := by
  obtain ⟨t, -, rfl⟩ := List.mem_map.mp hc
  exact head_outboundName t.hostname t.port t.tags

theorem head_of_mem_outbound {mesh : Mesh} {targets outside : List Subset} {c : Cluster}
    (hc : c ∈ targets.map (targetCluster mesh) ++ outside.map (escapeCluster mesh)) :
    c.name.toList.head? = some 'o' := by
  rcases List.mem_append.mp hc with hc | hc
  · exact head_of_mem_targets hc
  · obtain ⟨e, -, rfl⟩ := List.mem_map.mp hc
    exact head_outboundName e.hostname e.port e.tags

theorem head_of_mem_inbound {mesh : Mesh} {ports : List (Nat × Protocol)} {c : Cluster}
    (hc : c ∈ ports.map fun p => inboundCluster mesh p.1 p.2) :
    c.name.toList.head? = some 'i' := by
  obtain ⟨p, -, rfl⟩ := List.mem_map.mp hc
  exact head_inboundCluster mesh p.1 p.2

theorem agree_targets_mixer_iff {mesh : Mesh} {targets : List Subset}
    (h : ∀ t ∈ targets, t.IsChecked) :
    Cluster.Agree (targets.map (targetCluster mesh) ++ mixerClusters mesh) ↔
      ∀ s ∈ targets, ∀ t ∈ targets, ¬ s.Clashes t := by
  have htargets : ∀ c ∈ targets.map (targetCluster mesh), c.name.toList.head? = some 'o' :=
    fun c hc => head_of_mem_targets hc
  have hmixer : ∀ d ∈ mixerClusters mesh, d.name.toList.head? = some 'm' :=
    fun d hd => head_mixerClusters hd
  have hapart := apart_of_head (by decide) htargets hmixer
  rw [Cluster.agree_append_iff, agree_targets_iff h]
  exact ⟨fun hall => hall.1, fun hclash => ⟨hclash, agree_mixerClusters mesh, hapart⟩⟩

theorem agree_outbound_iff (hr : registry.IsSound) (mesh : Mesh) {targets : List Subset}
    (h : ∀ t ∈ targets, t.IsChecked) :
    Cluster.Agree (targets.map (targetCluster mesh) ++
        (escapes mesh registry.services.values).map (escapeCluster mesh)) ↔
      (∀ s ∈ targets, ∀ t ∈ targets, ¬ s.Clashes t) ∧
        ∀ t ∈ targets, ∀ e ∈ escapes mesh registry.services.values, ¬ t.SharesName e := by
  have hescapes : ∀ e ∈ escapes mesh registry.services.values, e.IsChecked :=
    fun e he => isChecked_escapes hr he
  rw [Cluster.agree_append_iff, agree_targets_iff h, target_escape_agree_iff h hescapes]
  constructor
  · rintro ⟨hclash, -, hshare⟩
    exact ⟨hclash, hshare⟩
  · rintro ⟨hclash, hshare⟩
    exact ⟨hclash, agree_escapes hr mesh, hshare⟩

theorem agree_inbound_mixer_iff (mesh : Mesh) (ports : List (Nat × Protocol)) :
    Cluster.Agree ((ports.map fun p => inboundCluster mesh p.1 p.2) ++ mixerClusters mesh) ↔
      Uniform ports := by
  have hinbound : ∀ c ∈ ports.map fun p => inboundCluster mesh p.1 p.2,
      c.name.toList.head? = some 'i' := fun c hc => head_of_mem_inbound hc
  have hmixer : ∀ d ∈ mixerClusters mesh, d.name.toList.head? = some 'm' :=
    fun d hd => head_mixerClusters hd
  have hapart := apart_of_head (by decide) hinbound hmixer
  rw [Cluster.agree_append_iff, agree_inbound_iff]
  exact ⟨fun hall => hall.1, fun huniform => ⟨huniform, agree_mixerClusters mesh, hapart⟩⟩

/-- The clusters of a sidecar meet among the targets, at the services outside the mesh and among
the ports of the workload, but never across. -/
theorem agree_sidecar_iff (hr : registry.IsSound) (mesh : Mesh) (ip : String)
    {targets : List Subset} (h : ∀ t ∈ targets, t.IsChecked) :
    Cluster.Agree ((targets.map (targetCluster mesh) ++
        (escapes mesh registry.services.values).map (escapeCluster mesh)) ++
        ((inboundPorts registry ip).map (fun p => inboundCluster mesh p.1 p.2) ++
          mixerClusters mesh)) ↔
      (∀ s ∈ targets, ∀ t ∈ targets, ¬ s.Clashes t) ∧
        (∀ t ∈ targets, ∀ e ∈ escapes mesh registry.services.values, ¬ t.SharesName e) ∧
        Uniform (inboundPorts registry ip) := by
  have houtbound : ∀ c ∈ targets.map (targetCluster mesh) ++
      (escapes mesh registry.services.values).map (escapeCluster mesh),
      c.name.toList.head? = some 'o' := fun c hc => head_of_mem_outbound hc
  have hinbound : ∀ c ∈ (inboundPorts registry ip).map fun p => inboundCluster mesh p.1 p.2,
      c.name.toList.head? = some 'i' := fun c hc => head_of_mem_inbound hc
  have hmixer : ∀ d ∈ mixerClusters mesh, d.name.toList.head? = some 'm' :=
    fun d hd => head_mixerClusters hd
  have hapart : ∀ c ∈ targets.map (targetCluster mesh) ++
      (escapes mesh registry.services.values).map (escapeCluster mesh),
      ∀ d ∈ (inboundPorts registry ip).map (fun p => inboundCluster mesh p.1 p.2) ++
        mixerClusters mesh, c.name = d.name → c = d := by
    intro c hc d hd
    rcases List.mem_append.mp hd with hd | hd
    · exact apart_of_head (by decide) houtbound hinbound c hc d hd
    · exact apart_of_head (by decide) houtbound hmixer c hc d hd
  rw [Cluster.agree_append_iff, agree_outbound_iff hr mesh h, agree_inbound_mixer_iff]
  constructor
  · rintro ⟨⟨hclash, hshare⟩, huniform, -⟩
    exact ⟨hclash, hshare, huniform⟩
  · rintro ⟨hclash, hshare, huniform⟩
    exact ⟨⟨hclash, hshare⟩, huniform, hapart⟩

theorem refuse_succeeds_iff {α : Type} {r : Except Cluster.Conflict α} :
    (∃ a, refuse r = .ok a) ↔ ∃ a, r = .ok a := by
  cases r <;> simp [refuse, Except.mapError]

theorem finishClusters_succeeds_iff (mesh : Mesh) (policy : String → Tags → Option VersionPolicy)
    (table : RouteTable) (more : List Cluster) :
    (∃ l, finishClusters mesh registry policy table more = .ok l) ↔
      Cluster.Agree (table.clusters ++ more) := by
  rw [finishClusters, map_succeeds_iff, Cluster.distinct_succeeds_iff]

/-- The clusters out of a workload are its targets and the services behind the egress proxy. -/
theorem mem_outbound_clusters {mesh : Mesh} {instances : List Instance} {services : List Service}
    {rules : List RouteRule} {c : Cluster} :
    c ∈ (outboundRoutes mesh instances services rules).clusters ∨ c ∈ tcpClusters mesh services ↔
      c ∈ (sidecarTargets services rules).map (targetCluster mesh) ∨
        c ∈ (escapes mesh services).map (escapeCluster mesh) := by
  rw [mem_clusters_outboundRoutes, tcpClusters, tcpPorts_eq]
  simp only [List.mem_map, mem_targets_sidecar, Prod.exists]
  constructor
  · rintro ((⟨s, p, hmem, t, ht, rfl⟩ | ⟨e, he, rfl⟩) | ⟨s, p, hmem, rfl⟩)
    · exact .inl ⟨t, .inl ⟨s, p, hmem, ht⟩, rfl⟩
    · exact .inr ⟨e, he, rfl⟩
    · exact .inl ⟨wholeService s p, .inr ⟨s, p, hmem, rfl⟩, rfl⟩
  · rintro (⟨t, ⟨s, p, hmem, ht⟩ | ⟨s, p, hmem, rfl⟩, rfl⟩ | ⟨e, he, rfl⟩)
    · exact .inl (.inl ⟨s, p, hmem, t, ht, rfl⟩)
    · exact .inr ⟨s, p, hmem, rfl⟩
    · exact .inl (.inr ⟨e, he, rfl⟩)

theorem mem_append_regroup {c : Cluster} {routes own tcp mixer checks inside outside : List Cluster}
    (h : c ∈ routes ∨ c ∈ tcp ↔ c ∈ inside ∨ c ∈ outside) :
    c ∈ routes ++ (own ++ tcp ++ mixer ++ checks) ↔
      c ∈ (inside ++ outside) ++ (own ++ checks ++ mixer) := by
  simp only [List.mem_append]
  rw [← h]
  tauto

theorem sidecarSettings_succeed_iff (hr : registry.IsSound) (mesh : Mesh) (store : Config.Memory)
    (node : Node) (hrules : AllChecked (sidecarRules registry store node)) :
    (∃ s, (sidecarSettings mesh registry store node).1 = .ok s) ↔
      (∀ s ∈ sidecarTargets registry.services.values (sidecarRules registry store node),
        ∀ t ∈ sidecarTargets registry.services.values (sidecarRules registry store node),
          ¬ s.Clashes t) ∧
        (∀ t ∈ sidecarTargets registry.services.values (sidecarRules registry store node),
          ∀ e ∈ escapes mesh registry.services.values, ¬ t.SharesName e) ∧
        Uniform (inboundPorts registry node.address.text) := by
  have hsettings : (sidecarSettings mesh registry store node).1 =
      refuse (sidecar mesh registry (Rule.versionPolicy? store) node
        (registry.instancesAt [node.address.text]) registry.services.values
        (sidecarRules registry store node)) := rfl
  rw [hsettings, refuse_succeeds_iff, sidecar, map_succeeds_iff, finishClusters_succeeds_iff,
    ← agree_sidecar_iff hr mesh node.address.text fun t ht => isChecked_sidecarTargets hr hrules ht,
    ← clusters_inbound]
  exact Cluster.agree_congr fun c => mem_append_regroup mem_outbound_clusters

theorem ingressSettings_succeed_iff (mesh : Mesh) (store : Config.Memory)
    (node : Node) (h : ∀ t ∈ sentTo ((Rule.ingressRules store).1.filterMap
      (edgeSender? registry.services (edgeRules (Rule.routeRules store).1))), t.IsChecked) :
    (∃ s, (ingressSettings mesh registry store node).1 = .ok s) ↔
      ∀ s ∈ sentTo ((Rule.ingressRules store).1.filterMap
          (edgeSender? registry.services (edgeRules (Rule.routeRules store).1))),
        ∀ t ∈ sentTo ((Rule.ingressRules store).1.filterMap
            (edgeSender? registry.services (edgeRules (Rule.routeRules store).1))),
          ¬ s.Clashes t := by
  obtain ⟨routes, hroutes, hclusters⟩ := clusters_edgeRoutes mesh registry
    (edgeRules (Rule.routeRules store).1) (Rule.ingressRules store).1
  have hsettings : (ingressSettings mesh registry store node).1 =
      refuse (ingress mesh registry (Rule.versionPolicy? store) node routes) := by
    have hthreaded : edgeRoutes mesh registry (edgeRules (Rule.routeRules store).1)
        (Rule.ingressRules (Rule.routeRules store).2).1 = .ok routes := hroutes
    simp only [ingressSettings, hthreaded]
    rfl
  rw [hsettings, refuse_succeeds_iff, ingress, map_succeeds_iff, finishClusters_succeeds_iff,
    ← agree_targets_mixer_iff h, ← hclusters]
  apply Cluster.agree_congr
  intro c
  rw [List.mem_append, List.mem_append, mem_clusters_edgeTable]

theorem egressSettings_succeed_iff (mesh : Mesh) (store : Config.Memory) :
    (∃ s, (egressSettings mesh registry store).1 = .ok s) ↔ Uniform (outsidePorts registry) := by
  have hsettings : (egressSettings mesh registry store).1 =
      refuse (egress mesh registry.services.values) := rfl
  rw [hsettings, refuse_succeeds_iff, egress, map_succeeds_iff, Cluster.distinct_succeeds_iff,
    ← agree_outside_iff mesh]
  exact Cluster.agree_congr fun c => mem_clusters_egressConfig

/-- What an ingress rule shows is a port of its service, through a route rule or itself. -/
theorem of_edgeSender? {rules : List RouteRule} {r : IngressRule} {rule : RouteRule} {p : Port}
    (h : edgeSender? registry.services rules r = some (rule, p)) :
    (rule ∈ rules ∨ rule = r.rule) ∧
      ∃ s, registry.services.find? r.rule.destination = some s ∧ p ∈ s.ports := by
  obtain ⟨s, hs, h⟩ := Option.bind_eq_some_iff.mp h
  obtain ⟨p', hport, h⟩ := Option.bind_eq_some_iff.mp h
  obtain ⟨lender, hlender, heq⟩ := Option.map_eq_some_iff.mp h
  obtain ⟨rfl, rfl⟩ := Prod.mk.inj heq
  refine ⟨?_, s, hs, ?_⟩
  · obtain ⟨path, -, rfl⟩ := Option.map_eq_some_iff.mp hlender
    cases hfind : (rulesFor rules s.hostname).find?
        (asksFor path (headerMatches (ruleHeaders r.rule)) (authority r.rule)) with
    | none => exact .inr rfl
    | some rule => exact .inl (mem_of_mem_rulesFor (List.mem_of_find?_eq_some hfind))
  · obtain ⟨hnamed, -⟩ := Option.filter_eq_some_iff.mp hport
    obtain ⟨ref, -, hfind⟩ := Option.bind_eq_some_iff.mp hnamed
    cases ref with
    | name n => exact List.mem_of_find?_eq_some hfind
    | number n => exact List.mem_of_find?_eq_some hfind

/-- All rules of a store are checked, but for their names. -/
structure StoreChecked (store : Config.Memory) : Prop where
  routes : AllChecked (Rule.routeRules store).1
  ingress : ∀ r ∈ (Rule.ingressRules store).1, r.rule.validateBody = .ok []

theorem StoreChecked.sidecarRules {store : Config.Memory} (h : StoreChecked store) (node : Node) :
    AllChecked (sidecarRules registry store node) := by
  intro rule hrule
  have hmem : rule ∈ (Rule.routeRules store).1.filter _ := List.mem_mergeSort.mp hrule
  exact h.routes rule (List.mem_of_mem_filter hmem)

theorem StoreChecked.edgeTargets (hr : registry.IsSound) {store : Config.Memory}
    (h : StoreChecked store) {t : Subset}
    (ht : t ∈ sentTo ((Rule.ingressRules store).1.filterMap
      (edgeSender? registry.services (edgeRules (Rule.routeRules store).1)))) : t.IsChecked := by
  obtain ⟨rule, p, hmem, hsent⟩ := mem_sentTo.mp ht
  obtain ⟨r, hr', hsender⟩ := List.mem_filterMap.mp hmem
  obtain ⟨horigin, s, hs, hp⟩ := of_edgeSender? hsender
  have hname := (Service.ports_of_validate (hr _ s hs).2).2 p hp
  refine isChecked_ruleTargets ?_ hname hsent
  rcases horigin with hrule | rfl
  · have hmem : rule ∈ (Rule.routeRules store).1.filter fromAnywhere := List.mem_mergeSort.mp hrule
    exact h.routes rule (List.mem_of_mem_filter hmem)
  · exact h.ingress r hr'

/-- Settings can be built exactly when no two targets clash, none has the name of a service behind
the egress proxy, and the registry agrees by itself. -/
theorem settings_succeed_iff (hr : registry.IsSound) (mesh : Mesh) {store : Config.Memory}
    (hstore : StoreChecked store) (node : Node) :
    (∃ s, (settings mesh registry store node).1 = .ok s) ↔
      (∀ s ∈ targets registry store node, ∀ t ∈ targets registry store node, ¬ s.Clashes t) ∧
        (∀ t ∈ targets registry store node, ∀ e ∈ escapesFrom mesh registry node,
          ¬ t.SharesName e) ∧
        RegistryAgrees registry node := by
  rw [settings, targets, senders, defaults, escapesFrom, RegistryAgrees]
  cases node.role with
  | sidecar => exact sidecarSettings_succeed_iff hr mesh store node (hstore.sidecarRules node)
  | ingress =>
    simp only [List.append_nil, List.not_mem_nil, false_implies, implies_true, and_true]
    exact ingressSettings_succeed_iff mesh store node fun t ht => hstore.edgeTargets hr ht
  | egress =>
    simp only [sentTo, List.flatMap_nil, List.append_nil, List.not_mem_nil, false_implies,
      implies_true, true_and]
    exact egressSettings_succeed_iff mesh store

/-! ### The registry alone -/

theorem storeChecked_new (c : Config.Catalog) : StoreChecked (Config.Memory.new c) where
  routes rule h := by cases h
  ingress r h := by cases h

theorem mem_sidecarTargets_nil {services : List Service} {t : Subset} :
    t ∈ sidecarTargets services [] ↔
      ∃ s p, (s ∈ services ∧ s.isExternal = false) ∧ p ∈ s.ports ∧
        isProxied p.protocol = true ∧ t = wholeService s p := by
  have hnone : ∀ s p, requestTargets [] s p = [wholeService s p] := fun s p => rfl
  simp only [mem_targets_sidecar, hnone, List.mem_singleton, mem_portsWhere, isProxied,
    Bool.or_eq_true]
  grind

theorem targets_new (c : Config.Catalog) (node : Node) :
    targets registry (Config.Memory.new c) node =
      match node.role with
      | .sidecar => sidecarTargets registry.services.values []
      | .ingress | .egress => [] := by
  have hrules : sidecarRules registry (Config.Memory.new c) node = [] :=
    List.mergeSort_nil
  rw [targets, senders, defaults, hrules]
  cases node.role <;> rfl

/-- Without rules a proxy has only the services of the registry for targets, which do not clash
and are not outside the mesh. -/
theorem targets_without_rules (hr : registry.IsSound) (mesh : Mesh) (c : Config.Catalog)
    (node : Node) {t : Subset} (ht : t ∈ targets registry (Config.Memory.new c) node) :
    (∀ u ∈ targets registry (Config.Memory.new c) node, ¬ t.Clashes u) ∧
      ∀ e ∈ escapesFrom mesh registry node, ¬ t.SharesName e := by
  rw [targets_new] at ht ⊢
  rw [escapesFrom]
  generalize node.role = role at ht ⊢
  cases role with
  | ingress => cases ht
  | egress => cases ht
  | sidecar =>
    obtain ⟨s, p, ⟨hs, hinside⟩, hp, -, rfl⟩ := mem_sidecarTargets_nil.mp ht
    constructor
    · intro u hu hclash
      obtain ⟨s', p', ⟨hs', -⟩, hp', -, rfl⟩ := mem_sidecarTargets_nil.mp hu
      obtain ⟨-, rfl⟩ := eq_of_sharesName hr hs hs' hp hp' hclash.1
      exact hclash.2 rfl
    · intro e he hshared
      obtain ⟨s', p', ⟨hs', houtside⟩, hp', rfl⟩ := of_mem_escapes he
      obtain ⟨rfl, -⟩ := eq_of_sharesName hr hs hs' hp hp' hshared
      rw [hinside] at houtside
      cases houtside

theorem settings_new_succeed_iff (hr : registry.IsSound) (mesh : Mesh) (c : Config.Catalog)
    (node : Node) :
    (∃ s, (settings mesh registry (Config.Memory.new c) node).1 = .ok s) ↔
      RegistryAgrees registry node := by
  rw [settings_succeed_iff hr mesh (storeChecked_new c) node]
  constructor
  · rintro ⟨-, -, hagrees⟩
    exact hagrees
  · intro hagrees
    exact ⟨fun s hs => (targets_without_rules hr mesh c node hs).1,
      fun t ht => (targets_without_rules hr mesh c node ht).2, hagrees⟩

/-- With no rules settings can be built for every proxy, unless two ports with one number, on the
workload of a sidecar or at one host outside, differ in whether they take HTTP/2. -/
theorem settings_without_rules_iff (mesh : Mesh) (ops : List Operation) (c : Config.Catalog)
    (node : Node) :
    (∃ s, (settings mesh (Registry.Memory.afterOperations ops) (Config.Memory.new c) node).1 =
        .ok s) ↔
      RegistryAgrees (Registry.Memory.afterOperations ops) node :=
  settings_new_succeed_iff (Registry.Memory.isSound_afterOperations ops) mesh c node

/-- Two services for one host outside the mesh, which takes HTTP by one and gRPC by the other. -/
def sharedOutside : List Operation := [
  .addService ⟨"api.example", none, [⟨"http", 80, .http⟩], some "api.example.com"⟩,
  .addService ⟨"rpc.example", none, [⟨"grpc", 80, .grpc⟩], some "api.example.com"⟩]

def egressNode : Node := ⟨.egress, .v4 10 3 0 1, "egress", "default"⟩

theorem shared_outside_fails :
    ¬ ∃ s, (settings default (Registry.Memory.afterOperations sharedOutside)
      (Config.Memory.new Rule.catalog) egressNode).1 = .ok s := by
  have hports : ¬ Uniform (outsidePorts (Registry.Memory.afterOperations sharedOutside)) := by
    decide
  intro h
  exact hports ((egressSettings_succeed_iff default _).mp h)

end MeshControl.Build
