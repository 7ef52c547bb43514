import MeshControl.Proofs.Build.Connections
import MeshControl.Proofs.Build.Exposure
import MeshControl.Proofs.Build.Faults

/-!
What requests pass on their way through a listener: the mixer, then the faults of the routes that
the listener serves, then the router. Checks of health are not reported to the mixer; their
listeners are told from all others by their addresses.
-/
namespace MeshControl

namespace Proxy

namespace Listener

/-- Requests go to the router and pass nothing else. -/
def OnlyForwards (l : Listener) : Prop :=
  ∀ m, l.filter = some (.http m) → m.filters = [.router]

theorem onlyForwards_of_ofRoutes {l : Listener} {routes : RouteSource}
    (h : l.filter = some (.http (.ofRoutes routes))) : l.OnlyForwards := by
  intro m hm
  rw [h] at hm
  obtain rfl := NetworkFilter.http.inj (Option.some.inj hm)
  rfl

theorem onlyForwards_of_tcp {l : Listener} {routes : List TcpRoute}
    (h : l.filter = some (.tcp routes)) : l.OnlyForwards := by
  intro m hm
  rw [h] at hm
  cases hm

/-- Changing filters keeps the manager and its routes. -/
theorem exists_manager_of_mapFilters {f : HttpManager → List HttpFilter} {l : Listener}
    {m : HttpManager} (h : (l.mapFilters f).filter = some (.http m)) :
    ∃ m', l.filter = some (.http m') ∧ m = { m' with filters := f m' } := by
  rw [mapFilters] at h
  split at h
  · next m' hfilter => exact ⟨m', hfilter, (NetworkFilter.http.inj (Option.some.inj h)).symm⟩
  · next hother => exact absurd h (hother m)

end Listener

theorem HttpManager.insertBeforeRouter_router (added : List HttpFilter) :
    insertBeforeRouter added [.router] = added ++ [.router] := rfl

/-- The filters for the faults of a configuration, in the order of its routes, and the router. -/
def RouteConfig.filters (c : RouteConfig) : List HttpFilter := c.faults.map .fault ++ [.router]

/-- Whatever asks for routes in closed settings finds them. -/
theorem Settings.IsClosed.exists_config? {s : Settings} (h : s.IsClosed) {l : Listener}
    (hl : l ∈ s.listeners) {m : HttpManager} (hm : l.filter = some (.http m)) :
    ∃ config, m.routes.config? s.routes = some config := by
  cases hroutes : m.routes with
  | written config => exact ⟨config, rfl⟩
  | discovered port millis =>
    have hasked : l.asked? = some port := by
      rw [Listener.asked?, Listener.source?, hm, Option.bind_some, hroutes]
      rfl
    exact h.asked l hl port hasked

end Proxy

namespace Build

open Proxy Registry Config

variable {ρ σ : Type} [Directory ρ] [Store σ]

/-! ### The two passes over filters -/

/-- The filter for the mixer, if there is one. -/
def mixers (mesh : Mesh) (node : Node) : List HttpFilter :=
  if mesh.mixerAddress.isSome then [.mixer (mixerAttributes node)] else []

/-- A listener that only forwarded gets the mixer and the faults of the routes it serves. -/
theorem filters_insertFilters {mesh : Mesh} {node : Node} {table : RouteTable} {l : Listener}
    {m : HttpManager} {config : RouteConfig} (hplain : l.OnlyForwards)
    (hm : (insertFilters mesh node table l).filter = some (.http m))
    (hconfig : m.routes.config? table = some config) :
    m.filters = mixers mesh node ++ config.filters := by
  have hfaults : ∀ m, (insertFaults table l).filter = some (.http m) →
      m.routes.config? table = some config → m.filters = config.filters := by
    intro m hm hconfig
    obtain ⟨m', hm', rfl⟩ := Listener.exists_manager_of_mapFilters hm
    have hconfig' : m'.routes.config? table = some config := hconfig
    simp only [hplain m' hm', hconfig', Option.map_some, Option.getD_some]
    exact HttpManager.insertBeforeRouter_router _
  rw [insertFilters] at hm
  rw [mixers]
  split at hm
  · next hmixer =>
    obtain ⟨m', hm', rfl⟩ := Listener.exists_manager_of_mapFilters hm
    rw [if_pos hmixer, ← hfaults m' hm' hconfig]
    rfl
  · next hmixer =>
    rw [if_neg hmixer]
    exact hfaults m hm hconfig

theorem exists_manager_of_insertFilters {mesh : Mesh} {node : Node} {table : RouteTable}
    {l : Listener} {m : HttpManager}
    (hm : (insertFilters mesh node table l).filter = some (.http m)) :
    ∃ m', l.filter = some (.http m') := by
  rw [insertFilters] at hm
  split at hm
  · obtain ⟨m', hm', -⟩ := Listener.exists_manager_of_mapFilters hm
    obtain ⟨m'', hm'', -⟩ := Listener.exists_manager_of_mapFilters hm'
    exact ⟨m'', hm''⟩
  · obtain ⟨m', hm', -⟩ := Listener.exists_manager_of_mapFilters hm
    exact ⟨m', hm'⟩

/-! ### Listeners into the workload -/

theorem onlyForwards_of_inbound? {mesh : Mesh} {address : String} {port : Nat}
    {protocol : Protocol} {checked : Bool} {l : Listener} {c : Cluster}
    (h : inbound? mesh address port protocol checked = some (l, c)) : l.OnlyForwards := by
  obtain ⟨-, -, rfl | rfl⟩ := cases_of_inbound? h
  · exact Listener.onlyForwards_of_ofRoutes rfl
  · exact Listener.onlyForwards_of_tcp rfl

theorem onlyForwards_of_instanceInbound? {mesh : Mesh} {i : Instance} {l : Listener}
    {c : Cluster} (h : instanceInbound? mesh i = some (l, c)) : l.OnlyForwards := by
  obtain ⟨plain, hplain, rfl⟩ := exists_plain_of_instanceInbound? h
  have hforwards : plain.OnlyForwards := onlyForwards_of_inbound? hplain
  exact hforwards

/-- The routes into the workload have no faults. -/
theorem filters_of_inbound? {mesh : Mesh} {address : String} {port : Nat} {protocol : Protocol}
    {checked : Bool} {l : Listener} {c : Cluster}
    (h : inbound? mesh address port protocol checked = some (l, c)) {m : HttpManager}
    (hm : l.filter = some (.http m)) {table : RouteTable} {config : RouteConfig}
    (hconfig : m.routes.config? table = some config) : m.filters = config.filters := by
  obtain ⟨-, -, rfl | rfl⟩ := cases_of_inbound? h
  · obtain rfl := NetworkFilter.http.inj (Option.some.inj hm)
    obtain rfl := Option.some.inj hconfig
    rfl
  · cases hm

/-! ### Listeners for checks -/

/-- A listener at a port for checks of health. The port is one that no instance has, at the
address of the node; on the wildcard it is not one that requests out of the workload are for. -/
structure IsForChecks (registry : ρ) (node : Node) (requests : List Nat) (l : Listener) :
    Prop where
  role : node.role = .sidecar
  port : ∃ instances, Directory.hostInstances registry [node.address.text] = .ok instances ∧
    ∃ p ∈ (Directory.managementPorts registry node.address.text).getD [],
      l.address = Listener.addressOf node.address.text p.number ∧
        (∀ i ∈ instances, i.endpoint.port ≠ p.number) ∧
        ¬ (node.address.text = wildcard ∧ p.number ∈ requests)

section Sidecar

variable {mesh : Mesh} {registry : ρ} {policy : String → Tags → Option VersionPolicy} {node : Node}
  {instances : List Instance} {services : List Service} {rules : List RouteRule}
  {table : RouteTable} {s : Settings} {l : Listener} {m : HttpManager}

/-- A listener for requests stands ahead, or it is for checks at an address where none stands
ahead. -/
theorem ahead_or_check (h : sidecar mesh registry policy node instances services rules = .ok s)
    (hl : l ∈ s.listeners) (hm : l.filter = some (.http m)) :
    l ∈ listenersAhead mesh node s.routes instances ∨
      l ∈ checkListeners mesh registry node instances ∧
        ∀ k ∈ listenersAhead mesh node s.routes instances, l.address ≠ k.address := by
  by_cases hahead : l ∈ listenersAhead mesh node s.routes instances
  · exact .inl hahead
  · rw [listeners_sidecar_ahead h, List.mem_append, List.mem_singleton, sortListeners,
      List.mem_mergeSort] at hl
    rcases hl with hfirst | rfl
    · refine .inr ⟨?_, fun k hk hsame => hahead (mem_front_of_firstPerAddress hfirst hk hsame)⟩
      have hmem := (List.mem_append.mp (mem_of_mem_firstPerAddress hfirst)).resolve_left hahead
      rcases List.mem_append.mp hmem with hconnections | hcheck
      · obtain ⟨plain, hplain, rfl⟩ := List.mem_map.mp hconnections
        obtain ⟨key, rfl⟩ := exists_key_of_mem_tcpListeners hplain
        obtain ⟨m', hm'⟩ := exists_manager_of_insertFilters hm
        cases hm'
      · exact hcheck
    · cases hm

/-- What stands ahead has the port of an instance, or the wildcard and a port of requests. -/
theorem not_isForChecks_of_ahead
    (hinstances : Directory.hostInstances registry [node.address.text] = .ok instances)
    (hl : l ∈ listenersAhead mesh node table instances) :
    ¬ IsForChecks registry node table.ports l := by
  rintro ⟨-, instances', hinstances', p, -, haddress, hunserved, hfree⟩
  obtain rfl := Except.ok.inj (hinstances.symm.trans hinstances')
  rcases mem_listenersAhead.mp hl with ⟨i, hi, plain, c, hplain, rfl⟩ | ⟨number, hnumber, rfl⟩
  · rw [address_insertFilters, (of_instanceInbound? hplain).1, Listener.addressOf_inj] at haddress
    exact hunserved i hi haddress.2
  · rw [address_insertFilters] at haddress
    obtain ⟨hip, rfl⟩ := Listener.addressOf_inj.mp haddress
    exact hfree ⟨hip.symm, hnumber⟩

theorem isForChecks_of_check (hrole : node.role = .sidecar)
    (hinstances : Directory.hostInstances registry [node.address.text] = .ok instances)
    (hl : l ∈ checkListeners mesh registry node instances)
    (hfree : ∀ k ∈ listenersAhead mesh node table instances, l.address ≠ k.address) :
    IsForChecks registry node table.ports l := by
  obtain ⟨⟨l, c⟩, hcheck, rfl⟩ := List.mem_map.mp hl
  obtain ⟨p, hp, hinbound⟩ := List.mem_filterMap.mp hcheck
  obtain ⟨hport, hunserved⟩ := List.mem_filter.mp hp
  have haddress : l.address = _ := (of_inbound? hinbound).1
  refine ⟨hrole, instances, hinstances, p, hport, haddress, ?_, ?_⟩
  · simpa using hunserved
  · intro hrequests
    obtain ⟨k, hk, hsame⟩ := (isOccupied_iff mesh node).mp (.inr hrequests)
    exact hfree k hk (haddress.trans hsame.symm)

/-- What stands ahead has only forwarded before filters were inserted. -/
theorem filters_of_ahead (hl : l ∈ listenersAhead mesh node table instances)
    (hm : l.filter = some (.http m)) {config : RouteConfig}
    (hconfig : m.routes.config? table = some config) :
    m.filters = mixers mesh node ++ config.filters := by
  rcases mem_listenersAhead.mp hl with ⟨i, -, plain, c, hplain, rfl⟩ | ⟨number, -, rfl⟩
  · exact filters_insertFilters (onlyForwards_of_instanceInbound? hplain) hm hconfig
  · exact filters_insertFilters (Listener.onlyForwards_of_ofRoutes rfl) hm hconfig

end Sidecar

theorem filters_of_mem_edgeListeners {mesh : Mesh} {node : Node} {table : RouteTable}
    {l : Listener} (hl : l ∈ (edgeListeners mesh table).map (insertFilters mesh node table))
    {m : HttpManager} (hm : l.filter = some (.http m)) {config : RouteConfig}
    (hconfig : m.routes.config? table = some config) :
    m.filters = mixers mesh node ++ config.filters := by
  obtain ⟨plain, hplain, rfl⟩ := List.mem_map.mp hl
  have hforwards : plain.OnlyForwards := by
    rcases List.mem_cons.mp hplain with rfl | hplain
    · exact Listener.onlyForwards_of_ofRoutes rfl
    · split at hplain
      · obtain rfl := List.mem_singleton.mp hplain
        exact Listener.onlyForwards_of_ofRoutes rfl
      · cases hplain
  exact filters_insertFilters hforwards hm hconfig

/-! ### The filters of a listener -/

/-- The requests that a sidecar or the ingress proxy takes pass the mixer, unless there is none or
they are checks of health; then the faults of the routes that are served, in the order of virtual
hosts and routes; and then the router, once. -/
theorem requests_pass_mixer_faults_router {mesh : Mesh} {registry : ρ} {store : σ} {node : Node}
    {s : Settings} (hrole : node.role = .sidecar ∨ node.role = .ingress)
    (h : (settings mesh registry store node).1 = .ok s) {l : Listener} (hl : l ∈ s.listeners)
    {m : HttpManager} (hm : l.filter = some (.http m)) :
    ∃ config, m.routes.config? s.routes = some config ∧
      (mesh.mixerAddress.isSome = true ∧ ¬ IsForChecks registry node s.routes.ports l →
        m.filters = .mixer (mixerAttributes node) :: (config.faults.map .fault ++ [.router])) ∧
      (mesh.mixerAddress.isSome = false ∨ IsForChecks registry node s.routes.ports l →
        m.filters = config.faults.map .fault ++ [.router]) := by
  obtain ⟨config, hconfig⟩ := (isClosed_settings h).exists_config? hl hm
  refine ⟨config, hconfig, ?_⟩
  suffices hfilters : ¬ IsForChecks registry node s.routes.ports l ∧
      m.filters = mixers mesh node ++ config.filters ∨
      IsForChecks registry node s.routes.ports l ∧ m.filters = config.filters by
    rcases hfilters with ⟨hother, hfilters⟩ | ⟨hcheck, hfilters⟩
    · rw [mixers] at hfilters
      constructor
      · rintro ⟨hmixer, -⟩
        rw [if_pos hmixer] at hfilters
        exact hfilters
      · rintro (hnone | hcheck)
        · rw [if_neg (by simp [hnone])] at hfilters
          exact hfilters
        · exact absurd hcheck hother
    · exact ⟨fun hboth => absurd hcheck hboth.2, fun _ => hfilters⟩
  rcases hrole with hrole | hrole
  · obtain ⟨instances, services, hinstances, -, hbuilt⟩ := exists_sidecar_of_settings hrole h
    rcases ahead_or_check hbuilt hl hm with hahead | ⟨hcheck, hfree⟩
    · exact .inl ⟨not_isForChecks_of_ahead hinstances hahead, filters_of_ahead hahead hm hconfig⟩
    · refine .inr ⟨isForChecks_of_check hrole hinstances hcheck hfree, ?_⟩
      obtain ⟨⟨l, c⟩, hmem, rfl⟩ := List.mem_map.mp hcheck
      obtain ⟨p, hp⟩ := exists_inbound?_of_mem_checks hmem
      exact filters_of_inbound? hp hm hconfig
  · have hother : ¬ IsForChecks registry node s.routes.ports l := by
      intro hcheck
      rw [hcheck.role] at hrole
      cases hrole
    refine .inl ⟨hother, ?_⟩
    simp only [settings, hrole, ingressSettings] at h
    split at h
    · cases h
    · obtain ⟨clusters, -, rfl⟩ := exists_of_map_eq_ok (of_refuse h)
      exact filters_of_mem_edgeListeners hl hm hconfig

/-! ### A request that passes all three -/

def mixedMesh : Mesh := { Mesh.default with mixerAddress := some "mixer.local:9091" }

/-- A service alone, and a port for checks at the address of the caller. -/
def checkedShop : Registry.Memory := .afterOperations [
  .addService reviews, .setManagementPorts "10.1.1.1" [⟨"health", 9000, .http⟩]]

theorem settings_checkedShop :
    ∃ s, (settings mixedMesh checkedShop faultyStore caller).1 = .ok s := by
  have hsound : checkedShop.IsSound := Registry.Memory.isSound_afterOperations _
  have hchecked : StoreChecked faultyStore := storeChecked_of_accepted rfl
    (Config.Memory.allAccepted_afterCalls Rule.catalog [.post faultyToRatings])
  have hrules : sidecarRules checkedShop faultyStore caller = [faultyRule] :=
    List.mergeSort_singleton _
  have hports : Uniform (inboundPorts checkedShop caller.address.text) := by decide +kernel
  apply (settings_succeed_iff hsound mixedMesh hchecked caller).mpr
  rw [targets_of_sidecar _ _ rfl, hrules]
  refine ⟨by decide +kernel, ?_, hports⟩
  intro t _ e he
  cases he

/-- A fault that does nothing, for all requests to a cluster. -/
def ratingsFault : Fault := ⟨none, none, [], "outbound:ratings.local|http"⟩

theorem faults_checkedShop :
    (RouteTable.find? (outboundRoutes mixedMesh [] [reviews] [faultyRule]) 80).map (·.faults) =
      some [ratingsFault] := by
  decide +kernel

theorem ratings_pass_mixer_fault_router :
    ∃ s, (settings mixedMesh checkedShop faultyStore caller).1 = .ok s ∧ ∃ l ∈ s.listeners,
      ∃ m, l.filter = some (.http m) ∧
        m.filters = [.mixer (mixerAttributes caller), .fault ratingsFault, .router] := by
  obtain ⟨s, hs⟩ := settings_checkedShop
  obtain ⟨instances, services, hinstances, hservices, hbuilt⟩ := exists_sidecar_of_settings rfl hs
  obtain rfl : [] = instances := Except.ok.inj hinstances
  obtain rfl : [reviews] = services := Except.ok.inj hservices
  have hrules : Rule.fromSource [] (Rule.routeRules faultyStore).1 = [faultyRule] :=
    List.mergeSort_singleton _
  rw [hrules] at hbuilt
  obtain ⟨config, hconfig, hfaults⟩ := Option.map_eq_some_iff.mp faults_checkedShop
  rw [← routes_sidecar hbuilt] at hconfig
  obtain ⟨l, hl, hasked⟩ := exists_asked? hbuilt hconfig nofun
  have heq := eq_of_asked? hbuilt hl hasked
  obtain ⟨m, hm, hroutes⟩ : ∃ m, l.filter = some (.http m) ∧
      m.routes = .discovered 80 mixedMesh.refreshDelay.millis := by
    rw [heq]
    exact ⟨_, rfl, rfl⟩
  obtain ⟨config', hconfig', hmixed, -⟩ :=
    requests_pass_mixer_faults_router (.inl rfl) hs hl hm
  rw [hroutes] at hconfig'
  obtain rfl : config' = config := Option.some.inj (hconfig'.symm.trans hconfig)
  have hother : ¬ IsForChecks checkedShop caller s.routes.ports l := by
    rintro ⟨-, -, -, p, -, haddress, -⟩
    rw [heq, address_insertFilters] at haddress
    exact absurd (Listener.addressOf_inj.mp haddress).1 (by decide)
  refine ⟨s, hs, l, hl, m, hm, ?_⟩
  rw [hmixed ⟨rfl, hother⟩, hfaults]
  rfl

end Build

end MeshControl
