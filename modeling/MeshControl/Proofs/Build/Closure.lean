import MeshControl.Proofs.Build.Encryption
import MeshControl.Proofs.Proxy.References

/-!
Settings that were built refer to nothing that is missing, whatever the role of the proxy. The
listeners of a sidecar stand in the order of their names, one at each address.
-/
namespace MeshControl.Build

open Proxy Registry Config

variable {ρ σ : Type} [Directory ρ] [Store σ]

/-! ### Clusters -/

theorem name_overlaid (mesh : Mesh) (registry : ρ)
    (policy : String → Tags → Option VersionPolicy) (c : Cluster) :
    (overlaid mesh registry policy c).name = c.name := by
  obtain ⟨_, _, _, _, hframe⟩ := applyPolicy_frame policy c
  rw [overlaid, hframe, applyClientTls]
  split
  · split <;> rfl
  · rfl

/-- Finished clusters are sorted, and none of those that were asked for is missing. -/
theorem names_finishClusters {mesh : Mesh} {registry : ρ}
    {policy : String → Tags → Option VersionPolicy} {table : RouteTable} {more l : List Cluster}
    (h : finishClusters mesh registry policy table more = .ok l) :
    (l.map (·.name)).Pairwise (· < ·) ∧
      (table.clusters ++ more).map (·.name) ⊆ l.map (·.name) := by
  have hmem : ∀ d ∈ table.clusters ++ more, overlaid mesh registry policy d ∈ l :=
    fun d hd => (mem_finishClusters h).mpr ⟨d, hd, rfl⟩
  obtain ⟨clusters, hclusters, rfl⟩ := exists_of_map_eq_ok h
  constructor
  · have hnames : (clusters.map (overlaid mesh registry policy)).map (·.name) =
        clusters.map (·.name) := by
      rw [List.map_map]
      exact List.map_congr_left fun c _ => name_overlaid mesh registry policy c
    exact hnames ▸ Cluster.pairwise_name_distinct hclusters
  · intro name hname
    obtain ⟨d, hd, rfl⟩ := List.mem_map.mp hname
    rw [← name_overlaid mesh registry policy d]
    exact List.mem_map_of_mem (hmem d hd)

/-! ### Routes -/

theorem isBacked_forwardTo (routes : List WeightedDestination) (clusters : List Cluster) :
    (forwardTo routes clusters).names ⊆ clusters.map (·.name) := by
  unfold forwardTo
  split
  · exact List.Subset.refl _
  · intro name hname
    obtain ⟨share, hshare, rfl⟩ := List.mem_map.mp hname
    exact (List.of_mem_zip hshare).1

theorem isBacked_of_ruleRoute? {mesh : Mesh} {rule : RouteRule} {port : Port} {r : HttpRoute}
    (h : ruleRoute? mesh rule port = some r) : r.IsBacked := by
  obtain ⟨path, -, rfl⟩ := Option.map_eq_some_iff.mp h
  exact isBacked_forwardTo rule.routes (ruleClusters mesh rule port)

theorem mem_of_mem_untilCatchAll {fallback r : HttpRoute} {routes : List HttpRoute}
    (h : r ∈ untilCatchAll fallback routes) : r = fallback ∨ r ∈ routes := by
  induction routes with
  | nil => exact .inl (List.mem_singleton.mp h)
  | cons a routes ih =>
    rw [untilCatchAll] at h
    split at h
    · exact .inr (List.mem_cons.mpr (.inl (List.mem_singleton.mp h)))
    · rcases List.mem_cons.mp h with rfl | hrest
      · exact .inr List.mem_cons_self
      · exact (ih hrest).imp_right (List.mem_cons_of_mem _)

theorem isBacked_of_routesTo? {mesh : Mesh} {rules : List RouteRule} {service : Service}
    {port : Port} {routes : List HttpRoute} (h : routesTo? mesh rules service port = some routes) :
    ∀ r ∈ routes, r.IsBacked := by
  intro r hr
  rw [routesTo?] at h
  split at h
  · obtain ⟨escape, hescape, rfl⟩ := Option.map_eq_some_iff.mp h
    obtain ⟨address, -, rfl⟩ := Option.map_eq_some_iff.mp hescape
    obtain rfl := List.mem_singleton.mp hr
    exact HttpRoute.isBacked_toCluster _
  · obtain rfl := Option.some.inj h
    rcases mem_of_mem_untilCatchAll hr with rfl | hown
    · exact HttpRoute.isBacked_toCluster _
    · obtain ⟨rule, -, hrule⟩ := List.mem_filterMap.mp hown
      exact isBacked_of_ruleRoute? hrule

theorem isTidy_of_mem_outboundRoutes {mesh : Mesh} {instances : List Instance}
    {services : List Service} {rules : List RouteRule} {e : Nat × RouteConfig}
    (h : e ∈ outboundRoutes mesh instances services rules) : e.2.IsTidy := by
  obtain ⟨⟨port, hosts⟩, hgroup, rfl⟩ := List.mem_map.mp h
  refine RouteConfig.isTidy_ofHosts fun v hv => ?_
  obtain ⟨service, -, hmem⟩ :=
    List.mem_flatMap.mp (Entries.exists_mem_group_iff.mp ⟨hosts, hgroup, hv⟩)
  obtain ⟨p, -, hp⟩ := List.mem_filterMap.mp hmem
  obtain ⟨routes, hroutes, heq⟩ := Option.map_eq_some_iff.mp hp
  obtain ⟨-, rfl⟩ := Prod.mk.inj heq
  exact isBacked_of_routesTo? hroutes

/-- The edge lends routes of rules and changes only what they match. -/
theorem isBacked_of_edgeRoute? {mesh : Mesh} {rules : List RouteRule} {service : Service}
    {port : Port} {rule : RouteRule} {r : HttpRoute}
    (h : edgeRoute? mesh rules service port rule = some r) : r.IsBacked := by
  obtain ⟨path, -, hroute⟩ := Option.bind_eq_some_iff.mp h
  obtain ⟨route, hlent, rfl⟩ := Option.map_eq_some_iff.mp hroute
  have hbacked : route.IsBacked := by
    rcases (Option.orElse_eq_some _ _ _).mp hlent with hfound | ⟨-, hown⟩
    · obtain ⟨lender, -, hlender⟩ := List.mem_filterMap.mp (List.mem_of_find?_eq_some hfound)
      exact isBacked_of_ruleRoute? hlender
    · exact isBacked_of_ruleRoute? hown
  exact hbacked

theorem isBacked_of_edgeRoutes {mesh : Mesh} {registry : ρ} {rules : List RouteRule}
    {ingressRules : List IngressRule} {routes : List EdgeRoute}
    (h : edgeRoutes mesh registry rules ingressRules = .ok routes) :
    ∀ e ∈ routes, e.route.IsBacked := by
  intro e he
  obtain ⟨g, -, service, port, hroute⟩ := exists_edgeRoute?_of_mem_edgeRoutes h he
  exact isBacked_of_edgeRoute? hroute

theorem isTidy_edgeConfig {routes : List EdgeRoute} (h : ∀ e ∈ routes, e.route.IsBacked)
    (secure : Bool) : (edgeConfig secure routes).IsTidy := by
  refine RouteConfig.isTidy_ofHosts fun v hv r hr => ?_
  obtain ⟨⟨host, group⟩, hgroup, rfl⟩ := List.mem_map.mp hv
  have hmem := Entries.exists_mem_group_iff.mp ⟨group, hgroup, List.mem_mergeSort.mp hr⟩
  obtain ⟨e, he, heq⟩ := List.mem_map.mp hmem
  obtain ⟨-, rfl⟩ := Prod.mk.inj heq
  exact h e (List.mem_filter.mp he).1

theorem isTidy_egressConfig (mesh : Mesh) (services : List Service) :
    (egressConfig mesh services).IsTidy := by
  refine RouteConfig.isTidy_ofHosts fun v hv r hr => ?_
  obtain ⟨service, -, hv⟩ := List.mem_flatMap.mp hv
  rw [outsideHosts] at hv
  split at hv
  · cases hv
  · obtain ⟨p, -, rfl⟩ := List.mem_map.mp hv
    obtain rfl := List.mem_singleton.mp hr
    exact HttpRoute.isBacked_toCluster _

/-! ### What the listeners of a sidecar need -/

theorem singleton_subset {α : Type} {a : α} {l : List α} (h : a ∈ l) : [a] ⊆ l :=
  List.cons_subset.mpr ⟨h, List.nil_subset l⟩

theorem isServed_insertFilters {l : Listener} {names : List String} {ports : List Nat}
    (mesh : Mesh) (node : Node) (table : RouteTable) (h : l.IsServed names ports) :
    (insertFilters mesh node table l).IsServed names ports := by
  have hfaults : (insertFaults table l).IsServed names ports := Listener.isServed_mapFilters _ h
  rw [insertFilters]
  split
  · exact Listener.isServed_mapFilters _ hfaults
  · exact hfaults

theorem asked?_insertFilters (mesh : Mesh) (node : Node) (table : RouteTable) (l : Listener) :
    (insertFilters mesh node table l).asked? = l.asked? := by
  rw [insertFilters]
  split <;> simp [insertMixer, insertFaults, Listener.asked?]

theorem isTidy_inboundRoutes (cluster : Cluster) (address : String) (port : Nat)
    (checked : Bool) : (inboundRoutes cluster address port checked).IsTidy where
  backed r hr := by
    obtain rfl := List.mem_singleton.mp hr
    exact HttpRoute.isBacked_toCluster cluster
  sorted := List.pairwise_singleton _ _

theorem isServed_of_inbound? {mesh : Mesh} {address : String} {port : Nat} {protocol : Protocol}
    {checked : Bool} {l : Listener} {c : Cluster}
    (h : inbound? mesh address port protocol checked = some (l, c)) : l.IsServed [c.name] [] := by
  obtain ⟨-, -, rfl | rfl⟩ := cases_of_inbound? h
  · exact Listener.isServed_of_written rfl (isTidy_inboundRoutes _ _ _ _)
  · exact Listener.isServed_of_source rfl rfl

theorem isServed_of_instanceInbound? {mesh : Mesh} {i : Instance} {l : Listener} {c : Cluster}
    (h : instanceInbound? mesh i = some (l, c)) : l.IsServed [c.name] [] := by
  obtain ⟨plain, hplain, rfl⟩ := exists_plain_of_instanceInbound? h
  obtain ⟨hwritten, hforwarded, hasked⟩ := isServed_of_inbound? hplain
  exact ⟨hwritten, hforwarded, hasked⟩

/-- A route of connections forwards to the cluster of its service. -/
theorem mem_names_of_tcpRoute {mesh : Mesh} {services : List Service} {key : String × Nat}
    {r : TcpRoute} (h : (key, r) ∈ (tcpPorts services).map fun (s, p) => tcpRoute mesh s p) :
    r.cluster ∈ (tcpClusters mesh services).map (·.name) := by
  obtain ⟨⟨service, p⟩, hp, heq⟩ := List.mem_map.mp h
  have hcluster : (tcpCluster mesh service p).name = r.cluster :=
    congrArg (fun e : (String × Nat) × TcpRoute => e.2.cluster) heq
  have hmem : tcpCluster mesh service p ∈ tcpClusters mesh services :=
    List.mem_map.mpr ⟨(service, p), hp, rfl⟩
  exact hcluster ▸ List.mem_map_of_mem hmem

theorem isServed_of_mem_tcpListeners {mesh : Mesh} {services : List Service} {l : Listener}
    (h : l ∈ tcpListeners mesh services) :
    l.IsServed ((tcpClusters mesh services).map (·.name)) [] := by
  rw [tcpListeners] at h
  obtain ⟨⟨⟨ip, port⟩, routes⟩, hgroup, rfl⟩ := List.mem_map.mp h
  have hserved : (Listener.on "tcp" ip port (.tcp (TcpRoute.sort routes))).IsServed
      ((TcpRoute.sort routes).map (·.cluster)) [] := Listener.isServed_of_source rfl rfl
  refine hserved.mono ?_ (List.Subset.refl _)
  intro name hname
  obtain ⟨r, hr, rfl⟩ := List.mem_map.mp hname
  have hroute : r ∈ routes := List.mem_mergeSort.mp hr
  exact mem_names_of_tcpRoute (Entries.exists_mem_group_iff.mp ⟨routes, hgroup, hroute⟩)

/-- What a listener of a sidecar is there for, unless it is the virtual one. -/
inductive Purpose (mesh : Mesh) (registry : ρ) (node : Node) (table : RouteTable)
    (instances : List Instance) (services : List Service) : Listener → Prop
  | workload {i : Instance} {plain : Listener} {c : Cluster} (hi : i ∈ instances)
      (hplain : instanceInbound? mesh i = some (plain, c)) :
      Purpose mesh registry node table instances services (insertFilters mesh node table plain)
  | requests {port : Nat} (hport : port ∈ table.ports) :
      Purpose mesh registry node table instances services
        (insertFilters mesh node table (.discovering port mesh.refreshDelay.millis))
  | connections {plain : Listener} (hplain : plain ∈ tcpListeners mesh services) :
      Purpose mesh registry node table instances services (insertFilters mesh node table plain)
  | check {l : Listener} {c : Cluster}
      (hcheck : (l, c) ∈ managementInbound mesh node.address.text instances
        ((Directory.managementPorts registry node.address.text).getD [])) :
      Purpose mesh registry node table instances services l

theorem purpose_of_mem {mesh : Mesh} {registry : ρ} {node : Node} {table : RouteTable}
    {instances : List Instance} {services : List Service} {l : Listener}
    (h : l ∈ workloadListeners mesh node table instances ++
      (outwardListeners mesh node table services ++
        checkListeners mesh registry node instances)) :
    Purpose mesh registry node table instances services l := by
  rcases List.mem_append.mp h with hworkload | hother
  · obtain ⟨i, hi, plain, c, hplain, rfl⟩ := mem_workloadListeners.mp hworkload
    exact .workload hi hplain
  · rcases List.mem_append.mp hother with houtward | hcheck
    · obtain ⟨plain, hplain, rfl⟩ := List.mem_map.mp houtward
      rcases List.mem_append.mp hplain with hrequests | hconnections
      · obtain ⟨port, hport, rfl⟩ := List.mem_map.mp hrequests
        exact .requests hport
      · exact .connections hconnections
    · obtain ⟨⟨l, c⟩, hmem, rfl⟩ := List.mem_map.mp hcheck
      exact .check hmem

theorem exists_inbound?_of_mem_checks {mesh : Mesh} {ip : String} {instances : List Instance}
    {ports : List Port} {l : Listener} {c : Cluster}
    (h : (l, c) ∈ managementInbound mesh ip instances ports) :
    ∃ p : Port, inbound? mesh ip p.number p.protocol false = some (l, c) := by
  obtain ⟨p, -, hp⟩ := List.mem_filterMap.mp h
  exact ⟨p, hp⟩

theorem purpose_of_mem_listeners {mesh : Mesh} {registry : ρ}
    {policy : String → Tags → Option VersionPolicy} {node : Node} {instances : List Instance}
    {services : List Service} {rules : List RouteRule} {s : Settings}
    (h : sidecar mesh registry policy node instances services rules = .ok s) {l : Listener}
    (hl : l ∈ s.listeners) :
    Purpose mesh registry node s.routes instances services l ∨ l = virtualListener mesh := by
  rw [listeners_sidecar h, List.mem_append, List.mem_singleton, sortListeners,
    List.mem_mergeSort] at hl
  exact hl.imp_left fun hfirst => purpose_of_mem (mem_of_mem_firstPerAddress hfirst)

/-- Every listener of a sidecar needs only clusters and routes that the sidecar is told of. -/
theorem isServed_of_mem_listeners {mesh : Mesh} {registry : ρ}
    {policy : String → Tags → Option VersionPolicy} {node : Node} {instances : List Instance}
    {services : List Service} {rules : List RouteRule} {s : Settings}
    (h : sidecar mesh registry policy node instances services rules = .ok s) {l : Listener}
    (hl : l ∈ s.listeners) : l.IsServed (s.clusters.map (·.name)) s.routes.ports := by
  have hpurpose := purpose_of_mem_listeners h hl
  obtain ⟨clusters, hclusters, rfl⟩ := exists_of_map_eq_ok h
  have hnames := (names_finishClusters hclusters).2
  simp only [List.map_append, List.append_subset] at hnames
  obtain ⟨-, ⟨⟨hown, htcp⟩, -⟩, hchecks⟩ := hnames
  rcases hpurpose with hpurpose | rfl
  · cases hpurpose with
    | workload hi hplain =>
      have hmem := List.mem_filterMap.mpr ⟨_, hi, hplain⟩
      have hc := singleton_subset (hown (List.mem_map_of_mem (List.mem_map_of_mem hmem)))
      exact isServed_insertFilters _ _ _
        ((isServed_of_instanceInbound? hplain).mono hc (List.nil_subset _))
    | requests hport =>
      exact isServed_insertFilters _ _ _
        ((Listener.isServed_of_discovered rfl).mono (List.nil_subset _) (singleton_subset hport))
    | connections hplain =>
      exact isServed_insertFilters _ _ _
        ((isServed_of_mem_tcpListeners hplain).mono htcp (List.nil_subset _))
    | check hcheck =>
      have hc := singleton_subset (hchecks (List.mem_map_of_mem (List.mem_map_of_mem hcheck)))
      obtain ⟨p, hp⟩ := exists_inbound?_of_mem_checks hcheck
      exact (isServed_of_inbound? hp).mono hc (List.nil_subset _)
  · exact (Listener.isServed_of_source rfl rfl).mono (List.nil_subset _) (List.nil_subset _)

/-! ### The order of listeners -/

theorem nodup_address_firstPerAddress (seen : List String) (ls : List Listener) :
    ((firstPerAddress seen ls).map (·.address)).Nodup := by
  induction ls generalizing seen with
  | nil => exact List.nodup_nil
  | cons a ls ih =>
    rw [firstPerAddress]
    split
    · exact ih seen
    · rw [List.map_cons, List.nodup_cons]
      refine ⟨fun hmem => ?_, ih _⟩
      obtain ⟨l, hl, haddress⟩ := List.mem_map.mp hmem
      exact address_notMem_seen hl (haddress ▸ List.mem_cons_self)

theorem isNamed_insertFilters {l : Listener} (mesh : Mesh) (node : Node) (table : RouteTable)
    (h : l.IsNamed) : (insertFilters mesh node table l).IsNamed := by
  rw [insertFilters]
  split
  · exact (h.mapFilters _).mapFilters _
  · exact h.mapFilters _

theorem isNamed_of_inbound? {mesh : Mesh} {address : String} {port : Nat} {protocol : Protocol}
    {checked : Bool} {l : Listener} {c : Cluster}
    (h : inbound? mesh address port protocol checked = some (l, c)) : l.IsNamed := by
  obtain ⟨-, -, rfl | rfl⟩ := cases_of_inbound? h
  · exact Listener.isNamed_on (.inl rfl) _ _ _
  · exact Listener.isNamed_on (.inr rfl) _ _ _

/-- All listeners of a sidecar but the virtual one are named after their addresses. -/
theorem Purpose.isNamed {mesh : Mesh} {registry : ρ} {node : Node} {table : RouteTable}
    {instances : List Instance} {services : List Service} {l : Listener}
    (h : Purpose mesh registry node table instances services l) : l.IsNamed := by
  cases h with
  | workload hi hplain =>
    obtain ⟨bare, hbare, rfl⟩ := exists_plain_of_instanceInbound? hplain
    have hnamed : bare.IsNamed := isNamed_of_inbound? hbare
    exact isNamed_insertFilters _ _ _ hnamed
  | requests hport => exact isNamed_insertFilters _ _ _ (Listener.isNamed_on (.inl rfl) _ _ _)
  | connections hplain =>
    obtain ⟨⟨⟨ip, port⟩, routes⟩, -, rfl⟩ := List.mem_map.mp hplain
    exact isNamed_insertFilters _ _ _ (Listener.isNamed_on (.inr rfl) _ _ _)
  | check hcheck =>
    obtain ⟨p, hp⟩ := exists_inbound?_of_mem_checks hcheck
    exact isNamed_of_inbound? hp

/-- Listeners with addresses of their own are sorted by name, and no two have one name. -/
theorem pairwise_name_sortListeners {ls : List Listener} (hnamed : ∀ l ∈ ls, l.IsNamed)
    (hnodup : (ls.map (·.address)).Nodup) :
    ((sortListeners ls).map (·.name)).Pairwise (· < ·) := by
  have hperm : (sortListeners ls).Perm ls := List.mergeSort_perm ls _
  have hapart : (sortListeners ls).Pairwise fun a b => a.address ≠ b.address :=
    List.pairwise_map.mp ((hperm.map Listener.address).nodup_iff.mpr hnodup)
  have hsorted : (sortListeners ls).Pairwise fun a b => a.name ≤ b.name :=
    pairwise_mergeSort_text (·.name) ls
  refine List.pairwise_map.mpr ((hsorted.and hapart).imp_of_mem fun ha hb hab => ?_)
  have hne := fun hname => hab.2
    ((hnamed _ (hperm.mem_iff.mp ha)).address_eq (hnamed _ (hperm.mem_iff.mp hb)) hname)
  exact text_lt_of_le_of_ne hab.1 hne

/-- The listeners of a sidecar: sorted by name, no two at one address, and the virtual one last. -/
structure Lined (mesh : Mesh) (s : Settings) (ls : List Listener) : Prop where
  listeners : s.listeners = ls ++ [virtualListener mesh]
  names : (ls.map (·.name)).Pairwise (· < ·)
  addresses : (ls.map (·.address)).Nodup

theorem lined_sidecar {mesh : Mesh} {registry : ρ}
    {policy : String → Tags → Option VersionPolicy} {node : Node} {instances : List Instance}
    {services : List Service} {rules : List RouteRule} {s : Settings}
    (h : sidecar mesh registry policy node instances services rules = .ok s) :
    ∃ ls, Lined mesh s ls := by
  let all := workloadListeners mesh node s.routes instances ++
    (outwardListeners mesh node s.routes services ++ checkListeners mesh registry node instances)
  have hnamed : ∀ l ∈ firstPerAddress [] all, l.IsNamed := fun l hl =>
    (purpose_of_mem (mem_of_mem_firstPerAddress hl)).isNamed
  have hnodup := nodup_address_firstPerAddress [] all
  refine ⟨sortListeners (firstPerAddress [] all), listeners_sidecar h,
    pairwise_name_sortListeners hnamed hnodup, ?_⟩
  exact ((List.mergeSort_perm _ _).map Listener.address).nodup_iff.mpr hnodup

/-! ### Closed settings -/

theorem isClosed_sidecar {mesh : Mesh} {registry : ρ}
    {policy : String → Tags → Option VersionPolicy} {node : Node} {instances : List Instance}
    {services : List Service} {rules : List RouteRule} {s : Settings}
    (h : sidecar mesh registry policy node instances services rules = .ok s) : s.IsClosed := by
  have hserved := fun l hl => isServed_of_mem_listeners h (l := l) hl
  obtain ⟨clusters, hclusters, rfl⟩ := exists_of_map_eq_ok h
  obtain ⟨hsorted, hnames⟩ := names_finishClusters hclusters
  rw [List.map_append, List.append_subset] at hnames
  exact Settings.isClosed_of hsorted (fun e he => isTidy_of_mem_outboundRoutes he) hnames.1 hserved

theorem isClosed_ingress {mesh : Mesh} {registry : ρ}
    {policy : String → Tags → Option VersionPolicy} {node : Node} {routes : List EdgeRoute}
    (hroutes : ∀ e ∈ routes, e.route.IsBacked) {s : Settings}
    (h : ingress mesh registry policy node routes = .ok s) : s.IsClosed := by
  obtain ⟨clusters, hclusters, rfl⟩ := exists_of_map_eq_ok h
  obtain ⟨hsorted, hnames⟩ := names_finishClusters hclusters
  rw [List.map_append, List.append_subset] at hnames
  refine Settings.isClosed_of hsorted ?_ hnames.1 ?_
  · intro e he
    rcases List.mem_cons.mp he with rfl | he
    · exact isTidy_edgeConfig hroutes false
    · obtain rfl := List.mem_singleton.mp he
      exact isTidy_edgeConfig hroutes true
  · intro l hl
    obtain ⟨plain, hplain, rfl⟩ := List.mem_map.mp hl
    refine isServed_insertFilters _ _ _ ?_
    rcases List.mem_cons.mp hplain with rfl | hsecure
    · exact (Listener.isServed_of_discovered rfl).mono (List.nil_subset _)
        (singleton_subset List.mem_cons_self)
    · split at hsecure
      · obtain rfl := List.mem_singleton.mp hsecure
        exact (Listener.isServed_of_discovered rfl).mono (List.nil_subset _)
          (singleton_subset (List.mem_cons_of_mem _ List.mem_cons_self))
      · cases hsecure

theorem isClosed_egress {mesh : Mesh} {services : List Service} {s : Settings}
    (h : egress mesh services = .ok s) : s.IsClosed := by
  obtain ⟨clusters, hclusters, rfl⟩ := exists_of_map_eq_ok h
  have hsubset : (egressConfig mesh services).clusters.map (·.name) ⊆ clusters.map (·.name) := by
    intro name hname
    obtain ⟨c, hc, rfl⟩ := List.mem_map.mp hname
    exact List.mem_map_of_mem ((Cluster.mem_distinct_iff hclusters).mpr hc)
  refine Settings.isClosed_of (Cluster.pairwise_name_distinct hclusters) nofun
    (List.nil_subset _) ?_
  intro l hl
  obtain rfl := List.mem_singleton.mp hl
  exact (Listener.isServed_of_written rfl (isTidy_egressConfig mesh services)).mono hsubset
    (List.nil_subset _)

theorem isClosed_settings {mesh : Mesh} {registry : ρ} {store : σ} {node : Node} {s : Settings}
    (h : (settings mesh registry store node).1 = .ok s) : s.IsClosed := by
  rw [settings] at h
  split at h
  · rw [sidecarSettings] at h
    split at h
    · cases h
    · exact isClosed_sidecar (of_refuse h)
  · rw [ingressSettings] at h
    simp only at h
    split at h
    · cases h
    · next routes hroutes => exact isClosed_ingress (isBacked_of_edgeRoutes hroutes) (of_refuse h)
  · rw [egressSettings] at h
    split at h
    · cases h
    · exact isClosed_egress (of_refuse h)

end MeshControl.Build
