import MeshControl.Proofs.Build.Outbound
import MeshControl.Proofs.Build.RuleAdded
import MeshControl.Proofs.Sorting

/-!
Which connections out of a workload find their service. The listener for a TCP port stands behind
those of the workload and of the requests, so it is missing where one of them has its address. And
services without an address share a listener for each port: its routes take the same connections,
so only the first of them is ever used.
-/
namespace MeshControl

namespace Proxy

namespace TcpRoute

/-! ### The order of routes -/

theorem compareLists_eq (as bs : List String) : compareLists as bs = Ord.compare as bs := by
  induction as generalizing bs with
  | nil => cases bs <;> rfl
  | cons a as ih =>
    cases bs with
    | nil => rfl
    | cons b bs =>
      show (Ord.compare a b).then (compareLists as bs) = _
      rw [ih]
      exact List.compareLex_cons_cons.symm

theorem compareTexts_eq (a b : Option String) : compareTexts a b = Ord.compare a b := by
  cases a <;> cases b <;> rfl

theorem compare_eq : compare = compareLex
    (compareLex (compareOn cluster) (compareOn addresses)) (compareOn portText) := by
  funext a b
  rw [compare, compareLists_eq, compareTexts_eq]
  rfl

instance : Std.TransCmp compare := by
  rw [compare_eq]
  infer_instance

theorem cluster_le_of_compare {a b : TcpRoute} (h : (a.compare b).isLE = true) :
    a.cluster ≤ b.cluster := by
  rw [compare_eq] at h
  simp only [compareLex, Ordering.isLE_then_iff_and] at h
  exact (isLE_compareOfLessAndEq String.le_antisymm String.not_le String.le_total).mp h.1.1

theorem pairwise_cluster_sort (routes : List TcpRoute) :
    (sort routes).Pairwise fun a b => a.cluster ≤ b.cluster := by
  have hany : routes.Pairwise fun _ _ => True := List.pairwise_of_forall fun _ _ => trivial
  exact (pairwise_mergeSort_cmp hany).imp fun h => cluster_le_of_compare h.1

/-- What has a smaller cluster stands before. -/
theorem mem_before_of_cluster_lt {before after : List TcpRoute} {q r : TcpRoute}
    (hsorted : (before ++ r :: after).Pairwise fun a b => a.cluster ≤ b.cluster)
    (hq : q ∈ before ++ r :: after) (hlt : q.cluster < r.cluster) : q ∈ before := by
  rw [List.mem_append, List.mem_cons] at hq
  rcases hq with hbefore | rfl | hafter
  · exact hbefore
  · exact absurd hlt (String.lt_irrefl _)
  · have hle := (List.pairwise_cons.mp (List.pairwise_append.mp hsorted).2.1).1 q hafter
    exact absurd hlt (String.not_lt.mpr hle)

end TcpRoute

/-- No route before this one takes the same connections to another cluster. -/
def Listener.Prefers (l : Listener) (r : TcpRoute) : Prop :=
  ∀ before after, l.tcpRoutes = before ++ r :: after →
    ∀ q ∈ before, q.addresses = r.addresses → q.port = r.port → q.cluster = r.cluster

end Proxy

namespace Build

open Proxy Registry Config

variable {ρ σ : Type} [Directory ρ] [Store σ]

/-- A listener of the workload or one for requests has the address. -/
def IsOccupied (instances : List Instance) (requests : List Nat) (ip : String) (number : Nat) :
    Prop :=
  (∃ i ∈ instances, isProxied i.endpoint.servicePort.protocol = true ∧
    i.endpoint.address = ip ∧ i.endpoint.port = number) ∨ ip = wildcard ∧ number ∈ requests

/-- Another TCP port takes the same connections and has a cluster that comes first. -/
def IsOutranked (mesh : Mesh) (services : List Service) (service : Service) (port : Port) : Prop :=
  ∃ other ∈ tcpPorts services, other.1.address = service.address ∧
    other.2.number = port.number ∧
    (tcpCluster mesh other.1 other.2).name < (tcpCluster mesh service port).name

/-! ### Routes of connections -/

theorem mem_tcpPorts {services : List Service} {service : Service} {port : Port} :
    (service, port) ∈ tcpPorts services ↔ (service ∈ services ∧ service.isExternal = false) ∧
      port ∈ service.ports ∧ port.protocol.isTcp = true := by
  rw [tcpPorts_eq, mem_portsWhere]

theorem blockOf_inj {a b : String} (h : blockOf a = blockOf b) : a = b := by
  have hchars := congrArg String.toList h
  rw [blockOf, blockOf, String.toList_append, String.toList_append] at hchars
  exact String.toList_inj.mp (List.append_cancel_right hchars)

/-- The connections of a route are those to the address and the port it was made for. -/
theorem tcpRoute_match_inj {mesh : Mesh} {s s' : Service} {p p' : Port}
    (haddresses : (tcpRoute mesh s p).2.addresses = (tcpRoute mesh s' p').2.addresses)
    (hport : (tcpRoute mesh s p).2.port = (tcpRoute mesh s' p').2.port) :
    s.address = s'.address ∧ p.number = p'.number := by
  have hblocks : s.address.map blockOf = s'.address.map blockOf := by
    simpa only [tcpRoute, Option.head?_toList] using congrArg List.head? haddresses
  exact ⟨Option.map_injective (fun _ _ h => blockOf_inj h) hblocks, Option.some.inj hport⟩

theorem tcpRoute_key_inj {mesh : Mesh} {s s' : Service} {p p' : Port}
    (h : (tcpRoute mesh s p).2 = (tcpRoute mesh s' p').2) :
    (tcpRoute mesh s p).1 = (tcpRoute mesh s' p').1 := by
  obtain ⟨haddress, hnumber⟩ := tcpRoute_match_inj (congrArg (·.addresses) h) (congrArg (·.port) h)
  simp only [tcpRoute, haddress, hnumber]

theorem tcpRoutes_insertFilters (mesh : Mesh) (node : Node) (table : RouteTable) (l : Listener) :
    (insertFilters mesh node table l).tcpRoutes = l.tcpRoutes := by
  rw [insertFilters]
  split <;> simp [insertMixer, insertFaults]

/-- A route into the workload. It takes connections to any port. -/
structure LeadsInward (mesh : Mesh) (r : TcpRoute) : Prop where
  port : r.port = none
  cluster : ∃ number protocol, r.cluster = (inboundCluster mesh number protocol).name

theorem leadsInward_of_inbound? {mesh : Mesh} {address : String} {number : Nat}
    {protocol : Protocol} {checked : Bool} {l : Listener} {c : Cluster}
    (h : inbound? mesh address number protocol checked = some (l, c)) {r : TcpRoute}
    (hr : r ∈ l.tcpRoutes) : LeadsInward mesh r := by
  obtain ⟨-, rfl, rfl | rfl⟩ := cases_of_inbound? h
  · cases hr
  · obtain rfl := List.mem_singleton.mp hr
    exact ⟨rfl, number, protocol, rfl⟩

theorem leadsInward_of_instanceInbound? {mesh : Mesh} {i : Instance} {l : Listener} {c : Cluster}
    (h : instanceInbound? mesh i = some (l, c)) {r : TcpRoute} (hr : r ∈ l.tcpRoutes) :
    LeadsInward mesh r := by
  obtain ⟨plain, hplain, rfl⟩ := exists_plain_of_instanceInbound? h
  exact leadsInward_of_inbound? hplain hr

theorem LeadsInward.cluster_ne {mesh : Mesh} {r : TcpRoute} (h : LeadsInward mesh r)
    (service : Service) (port : Port) : r.cluster ≠ (tcpCluster mesh service port).name := by
  obtain ⟨number, protocol, hcluster⟩ := h.cluster
  intro heq
  have hhead := head_inboundCluster mesh number protocol
  rw [← hcluster, heq] at hhead
  exact absurd (hhead.symm.trans (head_outboundName service.hostname port Tags.empty)) (by decide)

theorem isProxied_of_instanceInbound? {mesh : Mesh} {i : Instance} {l : Listener} {c : Cluster}
    (h : instanceInbound? mesh i = some (l, c)) :
    isProxied i.endpoint.servicePort.protocol = true := by
  obtain ⟨plain, hplain, -⟩ := exists_plain_of_instanceInbound? h
  exact (cases_of_inbound? hplain).1

/-! ### Listeners for connections -/

/-- The routes at an address and a port. -/
def routesAt (mesh : Mesh) (services : List Service) (key : String × Nat) : List TcpRoute :=
  Entries.valuesAt key ((tcpPorts services).map fun (s, p) => tcpRoute mesh s p)

theorem mem_routesAt {mesh : Mesh} {services : List Service} {key : String × Nat} {r : TcpRoute} :
    r ∈ routesAt mesh services key ↔
      ∃ other ∈ tcpPorts services, tcpRoute mesh other.1 other.2 = (key, r) := by
  rw [routesAt, Entries.mem_valuesAt, List.mem_map]

/-- The listener for the connections to an address and a port. -/
def listenerAt (mesh : Mesh) (services : List Service) (key : String × Nat) : Listener :=
  .on "tcp" key.1 key.2 (.tcp (TcpRoute.sort (routesAt mesh services key)))

theorem address_listenerAt (mesh : Mesh) (services : List Service) (key : String × Nat) :
    (listenerAt mesh services key).address = Listener.addressOf key.1 key.2 := rfl

theorem mem_tcpRoutes_listenerAt {mesh : Mesh} {services : List Service} {key : String × Nat}
    {r : TcpRoute} :
    r ∈ (listenerAt mesh services key).tcpRoutes ↔
      ∃ other ∈ tcpPorts services, tcpRoute mesh other.1 other.2 = (key, r) := by
  show r ∈ TcpRoute.sort _ ↔ _
  rw [TcpRoute.sort, List.mem_mergeSort, mem_routesAt]

theorem mem_tcpListeners {mesh : Mesh} {services : List Service} {service : Service} {port : Port}
    (h : (service, port) ∈ tcpPorts services) :
    listenerAt mesh services (tcpRoute mesh service port).1 ∈ tcpListeners mesh services := by
  have hroute : tcpRoute mesh service port ∈
      (tcpPorts services).map fun (s, p) => tcpRoute mesh s p := List.mem_map_of_mem h
  exact List.mem_map.mpr
    ⟨_, List.mem_map.mpr ⟨_, Entries.mem_keysOf.mpr ⟨_, hroute⟩, rfl⟩, rfl⟩

theorem exists_key_of_mem_tcpListeners {mesh : Mesh} {services : List Service} {l : Listener}
    (h : l ∈ tcpListeners mesh services) : ∃ key, l = listenerAt mesh services key := by
  obtain ⟨group, hgroup, rfl⟩ := List.mem_map.mp h
  obtain ⟨key, -, rfl⟩ := List.mem_map.mp hgroup
  exact ⟨key, rfl⟩

section

variable {mesh : Mesh} {registry : ρ} {policy : String → Tags → Option VersionPolicy}
  {node : Node} {instances : List Instance} {services : List Service} {rules : List RouteRule}
  {s : Settings} {service : Service} {port : Port} {l : Listener}

/-- Connections go into the workload or to a TCP port, by the listener at its address. -/
theorem origin_of_mem_tcpRoutes
    (h : sidecar mesh registry policy node instances services rules = .ok s)
    (hl : l ∈ s.listeners) {r : TcpRoute} (hr : r ∈ l.tcpRoutes) :
    LeadsInward mesh r ∨ ∃ other ∈ tcpPorts services, (tcpRoute mesh other.1 other.2).2 = r ∧
      l = insertFilters mesh node s.routes
        (listenerAt mesh services (tcpRoute mesh other.1 other.2).1) := by
  rcases purpose_of_mem_listeners h hl with hpurpose | rfl
  · cases hpurpose with
    | workload hi hplain =>
      rw [tcpRoutes_insertFilters] at hr
      exact .inl (leadsInward_of_instanceInbound? hplain hr)
    | requests hnumber =>
      rw [tcpRoutes_insertFilters] at hr
      cases hr
    | connections hplain =>
      rw [tcpRoutes_insertFilters] at hr
      obtain ⟨key, rfl⟩ := exists_key_of_mem_tcpListeners hplain
      obtain ⟨other, hother, hroute⟩ := mem_tcpRoutes_listenerAt.mp hr
      refine .inr ⟨other, hother, congrArg Prod.snd hroute, ?_⟩
      rw [hroute]
    | check hcheck =>
      obtain ⟨p, hp⟩ := exists_inbound?_of_mem_checks hcheck
      exact .inl (leadsInward_of_inbound? hp hr)
  · cases hr

/-- Only the listener at its own address has the route to a TCP port. -/
theorem eq_listenerAt_of_mem_tcpRoutes
    (h : sidecar mesh registry policy node instances services rules = .ok s)
    (hl : l ∈ s.listeners) (hr : (tcpRoute mesh service port).2 ∈ l.tcpRoutes) :
    l = insertFilters mesh node s.routes
      (listenerAt mesh services (tcpRoute mesh service port).1) := by
  rcases origin_of_mem_tcpRoutes h hl hr with hinward | ⟨other, -, hroute, rfl⟩
  · cases hinward.port
  · rw [tcpRoute_key_inj hroute]

/-- The listeners that stand before those for connections. -/
def listenersAhead (mesh : Mesh) (node : Node) (table : RouteTable) (instances : List Instance) :
    List Listener :=
  workloadListeners mesh node table instances ++
    (outboundListeners mesh table).map (insertFilters mesh node table)

theorem mem_listenersAhead {table : RouteTable} :
    l ∈ listenersAhead mesh node table instances ↔
      (∃ i ∈ instances, ∃ plain c, instanceInbound? mesh i = some (plain, c) ∧
        l = insertFilters mesh node table plain) ∨
      ∃ number ∈ table.ports,
        l = insertFilters mesh node table (.discovering number mesh.refreshDelay.millis) := by
  rw [listenersAhead, List.mem_append, mem_workloadListeners]
  simp only [outboundListeners, List.map_map, List.mem_map, Function.comp_apply, eq_comm]

/-- The addresses that are taken are those at which something stands ahead. -/
theorem isOccupied_iff (mesh : Mesh) (node : Node) {table : RouteTable} {ip : String}
    {number : Nat} :
    IsOccupied instances table.ports ip number ↔
      ∃ k ∈ listenersAhead mesh node table instances, k.address = Listener.addressOf ip number := by
  constructor
  · rintro (⟨i, hi, hproxied, rfl, rfl⟩ | ⟨rfl, hnumber⟩)
    · obtain ⟨k, hk, haddress⟩ := exists_mem_workloadListeners mesh node table hi hproxied
      exact ⟨k, List.mem_append_left _ hk, haddress⟩
    · exact ⟨_, mem_listenersAhead.mpr (.inr ⟨number, hnumber, rfl⟩),
        address_insertFilters _ _ _ _⟩
  · rintro ⟨k, hk, haddress⟩
    rcases mem_listenersAhead.mp hk with ⟨i, hi, plain, c, hplain, rfl⟩ | ⟨number', hnumber, rfl⟩
    · rw [address_insertFilters, (of_instanceInbound? hplain).1, Listener.addressOf_inj]
        at haddress
      exact .inl ⟨i, hi, isProxied_of_instanceInbound? hplain, haddress⟩
    · rw [address_insertFilters] at haddress
      obtain ⟨hip, rfl⟩ := Listener.addressOf_inj.mp haddress
      exact .inr ⟨hip.symm, hnumber⟩

/-- Nothing that stands ahead has the route to a TCP port. -/
theorem notMem_tcpRoutes_of_ahead {table : RouteTable}
    (h : l ∈ listenersAhead mesh node table instances) :
    (tcpRoute mesh service port).2 ∉ l.tcpRoutes := by
  intro hr
  rcases mem_listenersAhead.mp h with ⟨i, -, plain, c, hplain, rfl⟩ | ⟨number, -, rfl⟩
  · rw [tcpRoutes_insertFilters] at hr
    cases (leadsInward_of_instanceInbound? hplain hr).port
  · rw [tcpRoutes_insertFilters] at hr
    cases hr

theorem listeners_sidecar_ahead
    (h : sidecar mesh registry policy node instances services rules = .ok s) :
    s.listeners = sortListeners (firstPerAddress []
      (listenersAhead mesh node s.routes instances ++
        ((tcpListeners mesh services).map (insertFilters mesh node s.routes) ++
          checkListeners mesh registry node instances))) ++ [virtualListener mesh] := by
  rw [listeners_sidecar h]
  simp only [listenersAhead, outwardListeners, List.map_append, List.append_assoc]

/-- Where something stands ahead, it keeps the address. -/
theorem not_isOccupied_of_mem_tcpRoutes
    (h : sidecar mesh registry policy node instances services rules = .ok s)
    (hl : l ∈ s.listeners) (hr : (tcpRoute mesh service port).2 ∈ l.tcpRoutes) :
    ¬ IsOccupied instances s.routes.ports (service.address.getD wildcard) port.number := by
  rw [isOccupied_iff mesh node]
  rintro ⟨k, hk, hsame⟩
  have haddress : l.address = k.address := by
    rw [eq_listenerAt_of_mem_tcpRoutes h hl hr, address_insertFilters, hsame]
    rfl
  rw [listeners_sidecar_ahead h, List.mem_append, sortListeners, List.mem_mergeSort] at hl
  rcases hl with hfirst | hvirtual
  · exact notMem_tcpRoutes_of_ahead (mem_front_of_firstPerAddress hfirst hk haddress) hr
  · obtain rfl := List.mem_singleton.mp hvirtual
    cases hr

theorem exists_tcpRoute_of_not_isOccupied
    (h : sidecar mesh registry policy node instances services rules = .ok s)
    (hport : (service, port) ∈ tcpPorts services)
    (hfree : ¬ IsOccupied instances s.routes.ports (service.address.getD wildcard) port.number) :
    ∃ l ∈ s.listeners, (tcpRoute mesh service port).2 ∈ l.tcpRoutes := by
  rw [isOccupied_iff mesh node] at hfree
  let key := (tcpRoute mesh service port).1
  let own := insertFilters mesh node s.routes (listenerAt mesh services key)
  have haddress : own.address = Listener.addressOf key.1 key.2 := address_insertFilters _ _ _ _
  have hmem : own ∈ (tcpListeners mesh services).map (insertFilters mesh node s.routes) := by
    apply List.mem_map_of_mem
    exact mem_tcpListeners hport
  have hfront := List.mem_append_right (listenersAhead mesh node s.routes instances) hmem
  rw [listeners_sidecar_ahead h, ← List.append_assoc]
  obtain ⟨l, hl, hsame⟩ := exists_mem_firstPerAddress (List.mem_append_left _ hfront)
    List.not_mem_nil
  refine ⟨l, List.mem_append_left _ (List.mem_mergeSort.mpr hl), ?_⟩
  rcases List.mem_append.mp (mem_front_of_firstPerAddress hl hfront hsame) with hahead | hconn
  · exact absurd ⟨l, hahead, hsame.trans haddress⟩ hfree
  · obtain ⟨plain, hplain, rfl⟩ := List.mem_map.mp hconn
    obtain ⟨key', rfl⟩ := exists_key_of_mem_tcpListeners hplain
    rw [haddress, address_insertFilters, address_listenerAt, Listener.addressOf_inj] at hsame
    have hkey : key' = key := Prod.ext hsame.1 hsame.2
    rw [tcpRoutes_insertFilters, hkey, mem_tcpRoutes_listenerAt]
    exact ⟨_, hport, rfl⟩

/-! ### The first of the routes to one address and port -/

theorem mem_tcpRoutes_iff
    (h : sidecar mesh registry policy node instances services rules = .ok s)
    (hl : l ∈ s.listeners) (hr : (tcpRoute mesh service port).2 ∈ l.tcpRoutes) {q : TcpRoute} :
    q ∈ l.tcpRoutes ↔ ∃ other ∈ tcpPorts services,
      tcpRoute mesh other.1 other.2 = ((tcpRoute mesh service port).1, q) := by
  rw [eq_listenerAt_of_mem_tcpRoutes h hl hr, tcpRoutes_insertFilters, mem_tcpRoutes_listenerAt]

theorem pairwise_cluster_tcpRoutes
    (h : sidecar mesh registry policy node instances services rules = .ok s)
    (hl : l ∈ s.listeners) (hr : (tcpRoute mesh service port).2 ∈ l.tcpRoutes) :
    l.tcpRoutes.Pairwise fun a b => a.cluster ≤ b.cluster := by
  rw [eq_listenerAt_of_mem_tcpRoutes h hl hr, tcpRoutes_insertFilters]
  exact TcpRoute.pairwise_cluster_sort _

/-- A route that is outranked stands behind one with the same connections. -/
theorem not_prefers_of_isOutranked
    (h : sidecar mesh registry policy node instances services rules = .ok s)
    (hl : l ∈ s.listeners) (hr : (tcpRoute mesh service port).2 ∈ l.tcpRoutes)
    (houtranked : IsOutranked mesh services service port) :
    ¬ l.Prefers (tcpRoute mesh service port).2 := by
  intro hprefers
  obtain ⟨other, hother, haddress, hnumber, hlt⟩ := houtranked
  let q := (tcpRoute mesh other.1 other.2).2
  have hq : q ∈ l.tcpRoutes := by
    refine (mem_tcpRoutes_iff h hl hr).mpr ⟨other, hother, Prod.ext ?_ rfl⟩
    simp only [tcpRoute, haddress, hnumber]
  have hsorted := pairwise_cluster_tcpRoutes h hl hr
  obtain ⟨before, after, hsplit⟩ := List.append_of_mem hr
  rw [hsplit] at hsorted hq
  have hsame : (tcpCluster mesh other.1 other.2).name = (tcpCluster mesh service port).name :=
    hprefers before after hsplit q (TcpRoute.mem_before_of_cluster_lt hsorted hq hlt)
      (by simp only [q, tcpRoute, haddress]) (by simp only [q, tcpRoute, hnumber])
  rw [hsame] at hlt
  exact String.lt_irrefl _ hlt

/-- What stands before a route has a smaller cluster, or the same one. -/
theorem prefers_of_not_isOutranked
    (h : sidecar mesh registry policy node instances services rules = .ok s)
    (hl : l ∈ s.listeners) (hr : (tcpRoute mesh service port).2 ∈ l.tcpRoutes)
    (hfirst : ¬ IsOutranked mesh services service port) :
    l.Prefers (tcpRoute mesh service port).2 := by
  intro before after hsplit q hq haddresses hnumber
  by_contra hne
  have hmem : q ∈ l.tcpRoutes := by
    rw [hsplit]
    exact List.mem_append_left _ hq
  have hsorted := pairwise_cluster_tcpRoutes h hl hr
  rw [hsplit] at hsorted
  have hle := (List.pairwise_append.mp hsorted).2.2 q hq _ List.mem_cons_self
  obtain ⟨other, hother, hroute⟩ := (mem_tcpRoutes_iff h hl hr).mp hmem
  obtain rfl : (tcpRoute mesh other.1 other.2).2 = q := congrArg (·.2) hroute
  obtain ⟨haddress, hsame⟩ := tcpRoute_match_inj haddresses hnumber
  exact hfirst ⟨other, hother, haddress, hsame, text_lt_of_le_of_ne hle hne⟩

end

/-- A sidecar has a route to a TCP port unless its address is taken, by the workload or by requests.
No route before it takes the same connections to another cluster, unless a port with the same
connections has a cluster that comes first. -/
theorem tcp_services_reached_iff {mesh : Mesh} {registry : ρ} {store : σ} {node : Node}
    {s : Settings} (hrole : node.role = .sidecar)
    (h : (settings mesh registry store node).1 = .ok s) :
    ∃ instances services, Directory.hostInstances registry [node.address.text] = .ok instances ∧
      Directory.services registry = .ok services ∧
      ∀ service ∈ services, service.isExternal = false →
        ∀ port ∈ service.ports, port.protocol.isTcp = true →
          (tcpRoute mesh service port).2.cluster = (tcpCluster mesh service port).name ∧
          ((∃ l ∈ s.listeners, (tcpRoute mesh service port).2 ∈ l.tcpRoutes) ↔
            ¬ IsOccupied instances s.routes.ports (service.address.getD wildcard) port.number) ∧
          ∀ l ∈ s.listeners, (tcpRoute mesh service port).2 ∈ l.tcpRoutes →
            (l.Prefers (tcpRoute mesh service port).2 ↔
              ¬ IsOutranked mesh services service port) := by
  obtain ⟨instances, services, hinstances, hservices, hbuilt⟩ :=
    exists_sidecar_of_settings hrole h
  refine ⟨instances, services, hinstances, hservices, ?_⟩
  intro service hservice hinside port hport htcp
  have htcpPort := mem_tcpPorts.mpr ⟨⟨hservice, hinside⟩, hport, htcp⟩
  refine ⟨rfl, ⟨?_, ?_⟩, fun l hl hr => ⟨?_, ?_⟩⟩
  · rintro ⟨l, hl, hr⟩
    exact not_isOccupied_of_mem_tcpRoutes hbuilt hl hr
  · exact exists_tcpRoute_of_not_isOccupied hbuilt htcpPort
  · intro hprefers houtranked
    exact not_prefers_of_isOutranked hbuilt hl hr houtranked hprefers
  · exact prefers_of_not_isOutranked hbuilt hl hr

/-! ### Services without addresses -/

def redis : Port := ⟨"redis", 6379, .tcp⟩

def mysql : Port := ⟨"mysql", 3306, .tcp⟩

def cache : Service := ⟨"cache.local", none, [redis], none⟩

def orders : Service := ⟨"orders-db.local", none, [mysql], none⟩

def users : Service := ⟨"users-db.local", none, [mysql], none⟩

/-- A cache at a port that requests have too, and two databases at one port. -/
def crowded : Registry.Memory := .afterOperations [
  .addService cache, .addService ⟨"web.local", none, [⟨"http", 6379, .http⟩], none⟩,
  .addService orders, .addService users]

theorem exists_sidecar_crowded :
    ∃ s, (settings .default crowded (Config.Memory.new Rule.catalog) caller).1 = .ok s ∧
      s.routes.ports = [6379] ∧ ∃ policy rules,
        sidecar .default crowded policy caller [] crowded.services.values rules = .ok s := by
  have hports : Uniform (inboundPorts crowded caller.address.text) := by decide
  obtain ⟨s, hs⟩ := (settings_new_succeed_iff (Registry.Memory.isSound_afterOperations _)
    .default Rule.catalog caller).mpr hports
  obtain ⟨instances, services, hinstances, hservices, hbuilt⟩ := exists_sidecar_of_settings rfl hs
  obtain rfl : [] = instances := Except.ok.inj hinstances
  obtain rfl := Except.ok.inj hservices
  refine ⟨s, hs, ?_, _, _, hbuilt⟩
  rw [routes_sidecar hbuilt]
  decide +kernel

/-- The first database is reached. -/
theorem tcp_services_reached_at_orders :
    ∃ s, (settings .default crowded (Config.Memory.new Rule.catalog) caller).1 = .ok s ∧
      ∃ l ∈ s.listeners, (tcpRoute .default orders mysql).2 ∈ l.tcpRoutes ∧
        l.Prefers (tcpRoute .default orders mysql).2 := by
  obtain ⟨s, hs, hports, -⟩ := exists_sidecar_crowded
  obtain ⟨instances, services, hinstances, hservices, hall⟩ := tcp_services_reached_iff rfl hs
  obtain rfl : [] = instances := Except.ok.inj hinstances
  obtain rfl : crowded.services.values = services := Except.ok.inj hservices
  obtain ⟨-, hreached, hprefers⟩ :=
    hall orders (by decide) rfl mysql (List.mem_singleton_self _) rfl
  obtain ⟨l, hl, hr⟩ := hreached.mpr (by simp [IsOccupied, hports, orders, mysql])
  have hfirst : ¬ IsOutranked .default crowded.services.values orders mysql := by
    rw [IsOutranked]
    decide
  exact ⟨s, hs, l, hl, hr, (hprefers l hl hr).mpr hfirst⟩

/-- The cache is not reached at all, and the second database stands behind the first. -/
theorem tcp_services_lost :
    (cache, redis) ∈ tcpPorts crowded.services.values ∧
      (users, mysql) ∈ tcpPorts crowded.services.values ∧
      ∃ s, (settings .default crowded (Config.Memory.new Rule.catalog) caller).1 = .ok s ∧
        (∀ l ∈ s.listeners, ∀ r ∈ l.tcpRoutes,
          r.cluster ≠ (tcpCluster .default cache redis).name) ∧
        ∀ l ∈ s.listeners, ∀ r ∈ l.tcpRoutes,
          r.cluster = (tcpCluster .default users mysql).name → ¬ l.Prefers r := by
  obtain ⟨s, hs, hports, policy, rules, hbuilt⟩ := exists_sidecar_crowded
  have hcache : (cache, redis) ∈ tcpPorts crowded.services.values := by decide
  have hnames : ∀ mine ∈ tcpPorts crowded.services.values,
      ∀ other ∈ tcpPorts crowded.services.values,
        (tcpCluster .default other.1 other.2).name = (tcpCluster .default mine.1 mine.2).name →
          other = mine := by decide
  refine ⟨hcache, by decide, s, hs, ?_, ?_⟩
  · intro l hl r hr hcluster
    rcases origin_of_mem_tcpRoutes hbuilt hl hr with hinward | ⟨other, hother, rfl, -⟩
    · exact hinward.cluster_ne cache redis hcluster
    · obtain rfl := hnames _ hcache other hother hcluster
      apply not_isOccupied_of_mem_tcpRoutes hbuilt hl hr
      refine .inr ⟨rfl, ?_⟩
      rw [hports]
      decide
  · intro l hl r hr hcluster
    have husers : (users, mysql) ∈ tcpPorts crowded.services.values := by decide
    rcases origin_of_mem_tcpRoutes hbuilt hl hr with hinward | ⟨other, hother, rfl, -⟩
    · exact absurd hcluster (hinward.cluster_ne users mysql)
    · obtain rfl := hnames _ husers other hother hcluster
      apply not_prefers_of_isOutranked hbuilt hl hr
      rw [IsOutranked]
      decide

end Build

end MeshControl
