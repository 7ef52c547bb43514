import MeshControl.Proofs.Build.Connections
import MeshControl.Proofs.Build.Domains

/-!
Which addresses a sidecar listens at. Of all listeners that want one address the first has it, but
the virtual listener is put behind them without being asked for its address. So it alone can share
one, and it does if something is listened for on the wildcard at its own port.
-/
namespace MeshControl.Build

open Proxy Registry Config

variable {ρ σ : Type} [Directory ρ] [Store σ]

/-- What a sidecar listens for at an address and a port, its virtual listener apart. -/
inductive IsListenedFor (mesh : Mesh) (checks : List Port) (node : Node)
    (instances : List Instance) (services : List Service) : String → Nat → Prop
  | workload {i : Instance} (hi : i ∈ instances)
      (hproxied : isProxied i.endpoint.servicePort.protocol = true) :
      IsListenedFor mesh checks node instances services i.endpoint.address i.endpoint.port
  | requests {service : Service} (hservice : service ∈ services) {number : Nat}
      (hnumber : number ∈ listedNumbers mesh service) :
      IsListenedFor mesh checks node instances services wildcard number
  | connections {service : Service} {port : Port} (hport : (service, port) ∈ tcpPorts services) :
      IsListenedFor mesh checks node instances services (service.address.getD wildcard) port.number
  | check {port : Port} (hport : port ∈ checks) (hproxied : isProxied port.protocol = true)
      (hunserved : ∀ i ∈ instances, i.endpoint.port ≠ port.number) :
      IsListenedFor mesh checks node instances services node.address.text port.number

/-! ### Listeners by their addresses -/

theorem map_fst_outboundHosts (mesh : Mesh) (rules : List RouteRule) (suffix : List String)
    (service : Service) :
    (outboundHosts mesh rules suffix service).map (·.1) = listedNumbers mesh service := by
  have hdomains := congrArg (List.map (·.1)) (domains_outboundHosts mesh rules suffix service)
  rw [List.map_map, List.map_map] at hdomains
  exact hdomains.trans (List.map_id _)

/-- Requests are listened for at the numbers under which services are listed. -/
theorem mem_ports_outboundRoutes {mesh : Mesh} {instances : List Instance}
    {services : List Service} {rules : List RouteRule} {number : Nat} :
    number ∈ RouteTable.ports (outboundRoutes mesh instances services rules) ↔
      ∃ service ∈ services, number ∈ listedNumbers mesh service := by
  have hports : RouteTable.ports (outboundRoutes mesh instances services rules) =
      Entries.keysOf natLt
        (services.flatMap (outboundHosts mesh rules (suffixOf instances))) := by
    rw [RouteTable.ports, outboundRoutes, Entries.group, List.map_map, List.map_map]
    exact List.map_id _
  rw [hports, Entries.mem_keysOf]
  constructor
  · rintro ⟨v, hv⟩
    obtain ⟨service, hservice, hhost⟩ := List.mem_flatMap.mp hv
    refine ⟨service, hservice, ?_⟩
    rw [← map_fst_outboundHosts mesh rules (suffixOf instances)]
    exact List.mem_map_of_mem hhost
  · rintro ⟨service, hservice, hnumber⟩
    rw [← map_fst_outboundHosts mesh rules (suffixOf instances)] at hnumber
    obtain ⟨⟨number, v⟩, hhost, rfl⟩ := List.mem_map.mp hnumber
    exact ⟨v, List.mem_flatMap.mpr ⟨service, hservice, hhost⟩⟩

theorem exists_address_connections_iff (mesh : Mesh) (node : Node) (table : RouteTable)
    {services : List Service} {ip : String} {number : Nat} :
    (∃ l ∈ (tcpListeners mesh services).map (insertFilters mesh node table),
        l.address = Listener.addressOf ip number) ↔
      ∃ service port, (service, port) ∈ tcpPorts services ∧ service.address.getD wildcard = ip ∧
        port.number = number := by
  constructor
  · rintro ⟨l, hl, haddress⟩
    obtain ⟨plain, hplain, rfl⟩ := List.mem_map.mp hl
    obtain ⟨⟨key, routes⟩, hgroup, rfl⟩ := List.mem_map.mp hplain
    obtain ⟨_, hkey, heq⟩ := List.mem_map.mp hgroup
    obtain ⟨rfl, -⟩ := Prod.mk.inj heq
    obtain ⟨r, hr⟩ := Entries.mem_keysOf.mp hkey
    obtain ⟨⟨service, port⟩, hport, hroute⟩ := List.mem_map.mp hr
    obtain ⟨rfl, -⟩ := Prod.mk.inj hroute
    rw [address_insertFilters] at haddress
    exact ⟨service, port, hport, Listener.addressOf_inj.mp haddress⟩
  · rintro ⟨service, port, hport, rfl, rfl⟩
    refine ⟨_, List.mem_map_of_mem (mem_tcpListeners hport), ?_⟩
    rw [address_insertFilters, address_listenerAt]
    rfl

theorem exists_address_check_iff {mesh : Mesh} {registry : ρ} {node : Node}
    {instances : List Instance} {ip : String} {number : Nat} :
    (∃ l ∈ checkListeners mesh registry node instances,
        l.address = Listener.addressOf ip number) ↔
      ∃ port ∈ (Directory.managementPorts registry node.address.text).getD [],
        isProxied port.protocol = true ∧ (∀ i ∈ instances, i.endpoint.port ≠ port.number) ∧
          node.address.text = ip ∧ port.number = number := by
  constructor
  · rintro ⟨l, hl, haddress⟩
    obtain ⟨⟨l, c⟩, hcheck, rfl⟩ := List.mem_map.mp hl
    obtain ⟨port, hport, hinbound⟩ := List.mem_filterMap.mp hcheck
    obtain ⟨hport, hunserved⟩ := List.mem_filter.mp hport
    have hproxied : isProxied port.protocol = true := by
      by_contra hnot
      have hcluster := cluster_inbound? mesh node.address.text port.number port.protocol false
      rw [hinbound, if_neg hnot] at hcluster
      cases hcluster
    have hown : l.address = _ := (of_inbound? hinbound).1
    rw [hown] at haddress
    exact ⟨port, hport, hproxied, by simpa using hunserved, Listener.addressOf_inj.mp haddress⟩
  · rintro ⟨port, hport, hproxied, hunserved, rfl, rfl⟩
    have hcluster := cluster_inbound? mesh node.address.text port.number port.protocol false
    rw [if_pos hproxied] at hcluster
    obtain ⟨⟨l, c⟩, hinbound, -⟩ := Option.map_eq_some_iff.mp hcluster
    have hkept : port ∈ ((Directory.managementPorts registry node.address.text).getD []).filter
        fun p => !instances.any (·.endpoint.port == p.number) :=
      List.mem_filter.mpr ⟨hport, by simpa using hunserved⟩
    exact ⟨l, List.mem_map.mpr ⟨(l, c), List.mem_filterMap.mpr ⟨port, hkept, hinbound⟩, rfl⟩,
      (of_inbound? hinbound).1⟩

section Sidecar

variable {mesh : Mesh} {registry : ρ} {policy : String → Tags → Option VersionPolicy} {node : Node}
  {instances : List Instance} {services : List Service} {rules : List RouteRule} {s : Settings}

/-- Of the listeners that are not virtual, one stands at each address that is listened for. -/
theorem isListenedFor_iff
    (h : sidecar mesh registry policy node instances services rules = .ok s) {ip : String}
    {number : Nat} :
    IsListenedFor mesh ((Directory.managementPorts registry node.address.text).getD []) node
        instances services ip number ↔
      ∃ l ∈ listenersAhead mesh node s.routes instances ++
        ((tcpListeners mesh services).map (insertFilters mesh node s.routes) ++
          checkListeners mesh registry node instances),
        l.address = Listener.addressOf ip number := by
  simp only [List.mem_append, or_and_right, exists_or]
  rw [← isOccupied_iff, exists_address_connections_iff, exists_address_check_iff,
    routes_sidecar h]
  constructor
  · intro hlistened
    cases hlistened with
    | workload hi hproxied => exact .inl (.inl ⟨_, hi, hproxied, rfl, rfl⟩)
    | requests hservice hnumber =>
      exact .inl (.inr ⟨rfl, mem_ports_outboundRoutes.mpr ⟨_, hservice, hnumber⟩⟩)
    | connections hport => exact .inr (.inl ⟨_, _, hport, rfl, rfl⟩)
    | check hport hproxied hunserved =>
      exact .inr (.inr ⟨_, hport, hproxied, hunserved, rfl, rfl⟩)
  · rintro ((⟨i, hi, hproxied, rfl, rfl⟩ | ⟨rfl, hnumber⟩) | ⟨service, port, hport, rfl, rfl⟩ |
      ⟨port, hport, hproxied, hunserved, rfl, rfl⟩)
    · exact .workload hi hproxied
    · obtain ⟨service, hservice, hnumber⟩ := mem_ports_outboundRoutes.mp hnumber
      exact .requests hservice hnumber
    · exact .connections hport
    · exact .check hport hproxied hunserved

/-- The listeners of a sidecar have addresses of their own, unless one of them has that of the
virtual listener. -/
theorem nodup_address_sidecar_iff
    (h : sidecar mesh registry policy node instances services rules = .ok s) :
    (s.listeners.map (·.address)).Nodup ↔
      ¬ IsListenedFor mesh ((Directory.managementPorts registry node.address.text).getD []) node
        instances services wildcard mesh.listenPort := by
  let all := listenersAhead mesh node s.routes instances ++
    ((tcpListeners mesh services).map (insertFilters mesh node s.routes) ++
      checkListeners mesh registry node instances)
  have hperm : (s.listeners.map (·.address)).Perm
      ((firstPerAddress [] all).map (·.address) ++ [(virtualListener mesh).address]) := by
    rw [listeners_sidecar_ahead h, List.map_append]
    exact ((List.mergeSort_perm _ _).map _).append_right _
  have hvirtual : (virtualListener mesh).address ∈ (firstPerAddress [] all).map (·.address) ↔
      ∃ l ∈ all, l.address = (virtualListener mesh).address := by
    rw [List.mem_map]
    constructor
    · rintro ⟨l, hl, haddress⟩
      exact ⟨l, mem_of_mem_firstPerAddress hl, haddress⟩
    · rintro ⟨l, hl, haddress⟩
      obtain ⟨k, hk, hsame⟩ := exists_mem_firstPerAddress hl List.not_mem_nil
      exact ⟨k, hk, hsame.trans haddress⟩
  have hfirst := nodup_address_firstPerAddress [] all
  rw [isListenedFor_iff h, ← hperm.nodup_iff.symm, List.nodup_append_comm, List.singleton_append,
    List.nodup_cons, hvirtual]
  exact and_iff_left hfirst

end Sidecar

/-- The listeners of a sidecar, the virtual one apart, have different addresses. All of them do if
and only if nothing is listened for on the wildcard at the port of the virtual listener: no
instance there, no requests to a service that is listed under this number, no connections to a
service without an address of its own, and no checks of health. -/
theorem sidecar_addresses_apart_iff {mesh : Mesh} {registry : ρ} {store : σ} {node : Node}
    {s : Settings} (hrole : node.role = .sidecar)
    (h : (settings mesh registry store node).1 = .ok s) :
    ∃ instances services, Directory.hostInstances registry [node.address.text] = .ok instances ∧
      Directory.services registry = .ok services ∧
      (∃ ls, s.listeners = ls ++ [virtualListener mesh] ∧ (ls.map (·.address)).Nodup) ∧
      ((s.listeners.map (·.address)).Nodup ↔
        ¬ IsListenedFor mesh ((Directory.managementPorts registry node.address.text).getD []) node
          instances services wildcard mesh.listenPort) := by
  obtain ⟨instances, services, hinstances, hservices, hbuilt⟩ :=
    exists_sidecar_of_settings hrole h
  obtain ⟨ls, hlined⟩ := lined_sidecar hbuilt
  exact ⟨instances, services, hinstances, hservices, ⟨ls, hlined.listeners, hlined.addresses⟩,
    nodup_address_sidecar_iff hbuilt⟩

/-- Two services on the standard port leave the virtual listener alone at its address. -/
theorem shop_addresses_apart :
    ∃ s, (settings .default (shop 80) (Config.Memory.new Rule.catalog) caller).1 = .ok s ∧
      (s.listeners.map (·.address)).Nodup := by
  have hports : Uniform (inboundPorts (shop 80) caller.address.text) := by decide
  obtain ⟨s, hs⟩ := (settings_new_succeed_iff (Registry.Memory.isSound_afterOperations _) .default
    Rule.catalog caller).mpr hports
  obtain ⟨instances, services, hinstances, hservices, -, hapart⟩ :=
    sidecar_addresses_apart_iff rfl hs
  obtain rfl : [] = instances := Except.ok.inj hinstances
  obtain rfl : (shop 80).services.values = services := Except.ok.inj hservices
  have hrequests : ∀ service ∈ (shop 80).services.values,
      ∀ number ∈ listedNumbers .default service, number = 80 := by decide
  have hconnections : tcpPorts (shop 80).services.values = [] := by decide
  have hstandard : ∀ ip number,
      IsListenedFor .default [] caller [] (shop 80).services.values ip number → number = 80 := by
    intro ip number hlistened
    cases hlistened with
    | workload hi => cases hi
    | requests hservice hnumber => exact hrequests _ hservice _ hnumber
    | connections hport =>
      rw [hconnections] at hport
      cases hport
    | check hport => cases hport
  exact ⟨s, hs, hapart.mpr fun hlistened => absurd (hstandard _ _ hlistened) (by decide)⟩

/-- A console that takes requests at the port of the virtual listener. -/
def console : Service := ⟨"console.local", none, [⟨"http", 15001, .http⟩], none⟩

def consoles : Registry.Memory := .afterOperations [.addService console]

theorem console_shares_virtual_address :
    Mesh.validate .default = [] ∧
      ∃ s, (settings .default consoles (Config.Memory.new Rule.catalog) caller).1 = .ok s ∧
        ¬ (s.listeners.map (·.address)).Nodup := by
  have hports : Uniform (inboundPorts consoles caller.address.text) := by decide
  obtain ⟨s, hs⟩ := (settings_new_succeed_iff (Registry.Memory.isSound_afterOperations _) .default
    Rule.catalog caller).mpr hports
  obtain ⟨instances, services, -, hservices, hbuilt⟩ := exists_sidecar_of_settings rfl hs
  obtain rfl : [console] = services := Except.ok.inj hservices
  refine ⟨by decide, s, hs, ?_⟩
  rw [nodup_address_sidecar_iff hbuilt, not_not]
  exact .requests (List.mem_singleton_self console) (by decide)

end MeshControl.Build
