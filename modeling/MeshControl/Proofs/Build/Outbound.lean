import MeshControl.Proofs.Build.Closure

/-!
What a sidecar does with requests out of the workload. Each port of requests has one listener,
which asks for the routes of that port; the virtual hosts of the port are those of the services
that have it, and before its router stand the faults of its routes.
-/
namespace MeshControl

namespace Proxy

/-! ### Filters of requests -/

def Listener.httpFilters (l : Listener) : List HttpFilter :=
  match l.filter with
  | some (.http m) => m.filters
  | _ => []

theorem HttpManager.mem_insertBeforeRouter {f : HttpFilter} {added filters : List HttpFilter} :
    f ∈ insertBeforeRouter added filters ↔ f ∈ added ∨ f ∈ filters := by
  induction filters with
  | nil => simp [insertBeforeRouter]
  | cons a filters ih =>
    cases a with
    | router => simp [insertBeforeRouter]
    | fault g => simp only [insertBeforeRouter, List.mem_cons, ih, or_left_comm]
    | mixer attributes => simp only [insertBeforeRouter, List.mem_cons, ih, or_left_comm]

end Proxy

namespace Build

open Proxy Registry Config

variable {ρ σ : Type} [Directory ρ] [Store σ]

/-- Every fault of the routes that a listener asks for has its filter, and there are no other
faults. -/
theorem fault_mem_httpFilters (mesh : Mesh) (node : Node) {table : RouteTable} {number : Nat}
    {config : RouteConfig} (h : table.find? number = some config) (millis : Nat) {f : Fault} :
    .fault f ∈ (insertFilters mesh node table (.discovering number millis)).httpFilters ↔
      f ∈ config.faults := by
  have hfaults : .fault f ∈ (insertFaults table (.discovering number millis)).httpFilters ↔
      f ∈ config.faults := by
    have hconfig : (RouteSource.discovered number millis).config? table = some config := h
    simp [insertFaults, Listener.discovering, Listener.on, Listener.mapFilters,
      HttpManager.ofRoutes, Listener.httpFilters, HttpManager.mem_insertBeforeRouter, hconfig]
  rw [insertFilters, ← hfaults]
  split
  · simp [insertMixer, insertFaults, Listener.discovering, Listener.on, Listener.mapFilters,
      Listener.httpFilters]
  · rfl

/-! ### From the settings of a store -/

/-- The settings of a sidecar come from what the registry lists for its address and in all. -/
theorem exists_sidecar_of_settings {mesh : Mesh} {registry : ρ} {store : σ} {node : Node}
    (hrole : node.role = .sidecar) {s : Settings}
    (h : (settings mesh registry store node).1 = .ok s) :
    ∃ instances services, Directory.hostInstances registry [node.address.text] = .ok instances ∧
      Directory.services registry = .ok services ∧
      sidecar mesh registry (Rule.versionPolicy? (Rule.routeRules store).2) node instances services
        (Rule.fromSource instances (Rule.routeRules store).1) = .ok s := by
  rw [settings, hrole] at h
  simp only [sidecarSettings, surroundings] at h
  cases hinstances : Directory.hostInstances registry [node.address.text] with
  | error e =>
    rw [hinstances] at h
    cases h
  | ok instances =>
    cases hservices : Directory.services registry with
    | error e =>
      rw [hinstances, hservices] at h
      cases h
    | ok services =>
      rw [hinstances, hservices] at h
      exact ⟨instances, services, rfl, rfl, of_refuse h⟩

theorem exists_egress_of_settings {mesh : Mesh} {registry : ρ} {store : σ} {node : Node}
    (hrole : node.role = .egress) {s : Settings}
    (h : (settings mesh registry store node).1 = .ok s) :
    ∃ services, Directory.services registry = .ok services ∧ egress mesh services = .ok s := by
  rw [settings, hrole] at h
  simp only [egressSettings] at h
  split at h
  · cases h
  · next services hservices => exact ⟨services, hservices, of_refuse h⟩

theorem routes_sidecar {mesh : Mesh} {registry : ρ}
    {policy : String → Tags → Option VersionPolicy} {node : Node} {instances : List Instance}
    {services : List Service} {rules : List RouteRule} {s : Settings}
    (h : sidecar mesh registry policy node instances services rules = .ok s) :
    s.routes = outboundRoutes mesh instances services rules := by
  obtain ⟨clusters, -, rfl⟩ := exists_of_map_eq_ok h
  rfl

/-! ### Listeners -/

/-- A listener that asks for the routes of a port is the one for the requests to that port. -/
theorem eq_of_asked? {mesh : Mesh} {registry : ρ} {policy : String → Tags → Option VersionPolicy}
    {node : Node} {instances : List Instance} {services : List Service} {rules : List RouteRule}
    {s : Settings} (h : sidecar mesh registry policy node instances services rules = .ok s)
    {l : Listener} (hl : l ∈ s.listeners) {number : Nat} (hasked : l.asked? = some number) :
    l = insertFilters mesh node s.routes (.discovering number mesh.refreshDelay.millis) := by
  rcases purpose_of_mem_listeners h hl with hpurpose | rfl
  · cases hpurpose with
    | workload hi hplain =>
      rw [asked?_insertFilters] at hasked
      cases (isServed_of_instanceInbound? hplain).asked number hasked
    | requests hport =>
      rw [asked?_insertFilters] at hasked
      rw [Option.some.inj hasked]
    | connections hplain =>
      rw [asked?_insertFilters] at hasked
      cases (isServed_of_mem_tcpListeners hplain).asked number hasked
    | check hcheck =>
      obtain ⟨p, hp⟩ := exists_inbound?_of_mem_checks hcheck
      cases (isServed_of_inbound? hp).asked number hasked
  · cases hasked

/-- Requests to a port are listened for, unless a listener of the workload takes the address. -/
theorem exists_asked? {mesh : Mesh} {registry : ρ}
    {policy : String → Tags → Option VersionPolicy} {node : Node} {instances : List Instance}
    {services : List Service} {rules : List RouteRule} {s : Settings}
    (h : sidecar mesh registry policy node instances services rules = .ok s) {number : Nat}
    {config : RouteConfig} (hconfig : s.routes.find? number = some config)
    (hfree : ∀ i ∈ instances, i.endpoint.address ≠ wildcard) :
    ∃ l ∈ s.listeners, l.asked? = some number := by
  let asking := (outboundListeners mesh s.routes).map (insertFilters mesh node s.routes)
  let front := workloadListeners mesh node s.routes instances ++ asking
  let own := insertFilters mesh node s.routes (.discovering number mesh.refreshDelay.millis)
  have hport : number ∈ s.routes.ports := List.mem_map_of_mem (Entries.mem_of_find? hconfig)
  have hown : own ∈ front :=
    List.mem_append_right _ (List.mem_map_of_mem (List.mem_map.mpr ⟨number, hport, rfl⟩))
  have haddress : own.address = Listener.addressOf wildcard number := address_insertFilters _ _ _ _
  rw [listeners_sidecar h, outwardListeners, List.map_append, List.append_assoc,
    ← List.append_assoc (workloadListeners mesh node s.routes instances)]
  obtain ⟨l, hl, hsame⟩ := exists_mem_firstPerAddress (List.mem_append_left _ hown)
    List.not_mem_nil
  refine ⟨l, List.mem_append_left _ (List.mem_mergeSort.mpr hl), ?_⟩
  rcases List.mem_append.mp (mem_front_of_firstPerAddress hl hown hsame) with hwork | hasking
  · obtain ⟨i, hi, plain, c, hplain, rfl⟩ := mem_workloadListeners.mp hwork
    rw [haddress, address_insertFilters, (of_instanceInbound? hplain).1] at hsame
    exact absurd (Listener.addressOf_inj.mp hsame).1 (hfree i hi)
  · obtain ⟨plain, hplain, rfl⟩ := List.mem_map.mp hasking
    obtain ⟨number', -, rfl⟩ := List.mem_map.mp hplain
    rw [haddress, address_insertFilters] at hsame
    obtain rfl := (Listener.addressOf_inj.mp hsame).2
    exact asked?_insertFilters _ _ _ _

/-! ### Virtual hosts -/

theorem mem_outboundHosts {mesh : Mesh} {rules : List RouteRule} {suffix : List String}
    {service : Service} {number : Nat} {v : VirtualHost} :
    (number, v) ∈ outboundHosts mesh rules suffix service ↔
      ∃ port ∈ service.ports, port.protocol.isHttp = true ∧ port.number = number ∧
        ∃ routes, routesTo? mesh rules service port = some routes ∧
          v = virtualHost service port suffix routes := by
  simp only [outboundHosts, List.mem_filterMap, List.mem_filter, Option.map_eq_some_iff,
    Prod.mk.injEq]
  constructor
  · rintro ⟨port, ⟨hport, hhttp⟩, routes, hroutes, hnumber, rfl⟩
    exact ⟨port, hport, hhttp, hnumber, routes, hroutes, rfl⟩
  · rintro ⟨port, hport, hhttp, hnumber, routes, hroutes, rfl⟩
    exact ⟨port, ⟨hport, hhttp⟩, routes, hroutes, hnumber, rfl⟩

/-- The virtual hosts of a port are those of the services that have it. -/
theorem mem_hosts_outboundRoutes {mesh : Mesh} {instances : List Instance}
    {services : List Service} {rules : List RouteRule} {number : Nat} {config : RouteConfig}
    (h : RouteTable.find? (outboundRoutes mesh instances services rules) number = some config)
    {v : VirtualHost} :
    v ∈ config.hosts ↔ ∃ service ∈ services,
      (number, v) ∈ outboundHosts mesh rules (suffixOf instances) service := by
  obtain ⟨⟨number', hosts⟩, hgroup, heq⟩ := List.mem_map.mp (Entries.mem_of_find? h)
  obtain ⟨rfl, rfl⟩ := Prod.mk.inj heq
  rw [RouteConfig.ofHosts, List.mem_mergeSort, Entries.mem_of_mem_group hgroup, List.mem_flatMap]

/-- Every port of requests at which a service can be reached has its virtual host. -/
theorem exists_host_sidecar {mesh : Mesh} {registry : ρ}
    {policy : String → Tags → Option VersionPolicy} {node : Node} {instances : List Instance}
    {services : List Service} {rules : List RouteRule} {s : Settings}
    (h : sidecar mesh registry policy node instances services rules = .ok s)
    {service : Service} (hservice : service ∈ services) {port : Port} (hport : port ∈ service.ports)
    (hhttp : port.protocol.isHttp = true) {routes : List HttpRoute}
    (hroutes : routesTo? mesh rules service port = some routes) :
    ∃ config, s.routes.find? port.number = some config ∧
      virtualHost service port (suffixOf instances) routes ∈ config.hosts := by
  have hhost : (port.number, virtualHost service port (suffixOf instances) routes) ∈
      outboundHosts mesh rules (suffixOf instances) service :=
    mem_outboundHosts.mpr ⟨port, hport, hhttp, rfl, routes, hroutes, rfl⟩
  obtain ⟨hosts, hgroup, -⟩ : ∃ hosts, (port.number, hosts) ∈ Entries.group natLt
      (services.flatMap (outboundHosts mesh rules (suffixOf instances))) ∧ _ ∈ hosts :=
    Entries.exists_mem_group_iff.mpr (List.mem_flatMap.mpr ⟨service, hservice, hhost⟩)
  have hentry : (port.number, RouteConfig.ofHosts hosts) ∈ s.routes := by
    rw [routes_sidecar h]
    exact List.mem_map.mpr ⟨(port.number, hosts), hgroup, rfl⟩
  obtain ⟨config, hconfig⟩ := RouteTable.find?_of_mem (List.mem_map.mpr ⟨_, hentry, rfl⟩)
  refine ⟨config, hconfig, ?_⟩
  rw [routes_sidecar h] at hconfig
  exact (mem_hosts_outboundRoutes hconfig).mpr ⟨service, hservice, hhost⟩

end Build

end MeshControl
