import MeshControl.Proofs.Build.FirstMatch
import MeshControl.Proofs.Build.HostNames
import MeshControl.Proofs.Build.Outbound

/-!
What sidecars hand over to the egress proxy. A sidecar sends requests for an outside service there
and leaves the host in them as it is, so the egress proxy has to know that host. It knows outside
services by their whole hostnames; a sidecar also takes requests under shorter names, seen from
the domain of its workload, and under the address of the service. Such a request is served only if
that other name is the hostname of a service with the same name and port outside.
-/
namespace MeshControl

namespace Proxy

/-- All requests to a virtual host go to one fixed host; `renames` says whether its name is put
into them. -/
def VirtualHost.SendsTo (v : VirtualHost) (s : Settings) (host : String) (renames : Bool) : Prop :=
  ∃ r c, v.routes = [r] ∧ r.isCatchAll = true ∧ r.renamesHost = renames ∧
    r.forward = .cluster c.name ∧ c ∈ s.clusters ∧ c.hosts = ["tcp://" ++ host]

/-- Requests for a domain have a virtual host that sends them to a fixed host by its own name. -/
def Settings.Serves (s : Settings) (domain host : String) : Prop :=
  ∃ config ∈ s.configs, ∃ v ∈ config.hosts, domain ∈ v.domains ∧ v.SendsTo s host true

/-- A cluster of closed settings is known by its name. -/
theorem Settings.IsClosed.cluster_eq {s : Settings} (h : s.IsClosed) {c d : Cluster}
    (hc : c ∈ s.clusters) (hd : d ∈ s.clusters) (hname : c.name = d.name) : c = d :=
  List.inj_on_of_nodup_map (h.clusters.imp fun hlt => String.ne_of_lt hlt) hc hd hname

theorem VirtualHost.SendsTo.host_eq {v : VirtualHost} {s : Settings} (hs : s.IsClosed)
    {a b : String} {x y : Bool} (ha : v.SendsTo s a x) (hb : v.SendsTo s b y) : a = b := by
  obtain ⟨r, c, hroutes, -, -, hforward, hc, hhosts⟩ := ha
  obtain ⟨r', d, hroutes', -, -, hforward', hd, hhosts'⟩ := hb
  obtain rfl : r = r' := List.singleton_inj.mp (hroutes.symm.trans hroutes')
  have hname : c.name = d.name := Forward.cluster.inj (hforward.symm.trans hforward')
  obtain rfl := hs.cluster_eq hc hd hname
  simpa using hhosts.symm.trans hhosts'

end Proxy

namespace Build

open Proxy Registry Config

variable {ρ σ : Type} [Directory ρ] [Store σ]

/-! ### Domains -/

theorem mem_withPort {number : Nat} {host domain : String} :
    domain ∈ withPort number host ↔ domain = s!"{host}:{number}" ∨ number = 80 ∧ domain = host := by
  rw [withPort]
  split
  · next h => simp [h]
  · next h => simp [h]

/-- A hostname has no colon, so its domains tell it and the port. -/
theorem ported_mem_withPort_iff {host other : String} {number n : Nat}
    (hcolon : ':' ∉ other.toList) :
    s!"{host}:{number}" ∈ withPort n other ↔ other = host ∧ n = number := by
  rw [mem_withPort, ported_inj, eq_comm, @eq_comm Nat]
  apply or_iff_left
  rintro ⟨-, hbare⟩
  rw [← hbare, toList_ported] at hcolon
  exact hcolon (List.mem_append_right _ List.mem_cons_self)

/-! ### The egress proxy -/

theorem configs_egress {mesh : Mesh} {services : List Service} {s : Settings}
    (h : egress mesh services = .ok s) : s.configs = [egressConfig mesh services] := by
  obtain ⟨clusters, -, rfl⟩ := exists_of_map_eq_ok h
  rfl

/-- The virtual hosts of the egress proxy are one for each port of requests of each outside
service. -/
theorem mem_hosts_egressConfig {mesh : Mesh} {services : List Service} {v : VirtualHost} :
    v ∈ (egressConfig mesh services).hosts ↔ ∃ service ∈ services, ∃ outside,
      service.externalName = some outside ∧ ∃ p ∈ service.ports,
        p.protocol.isHttp = true ∧ v = outsideHost mesh service.hostname outside p := by
  simp only [egressConfig, RouteConfig.ofHosts, List.mem_mergeSort, List.mem_flatMap,
    mem_outsideHosts]

theorem sendsTo_of_mem_hosts {mesh : Mesh} {services : List Service} {s : Settings}
    (h : egress mesh services = .ok s) {hostname outside : String} {p : Port}
    (hv : outsideHost mesh hostname outside p ∈ (egressConfig mesh services).hosts) :
    (outsideHost mesh hostname outside p).SendsTo s s!"{outside}:{p.number}" true := by
  obtain ⟨clusters, hclusters, rfl⟩ := exists_of_map_eq_ok h
  let c := outsideCluster mesh ((outside, p.number), p.protocol)
  have hc : c ∈ clusters := by
    rw [Cluster.mem_distinct_iff hclusters]
    exact RouteConfig.mem_clusters_ofHosts.mpr
      ⟨_, List.mem_mergeSort.mp hv, _, List.mem_singleton_self _, List.mem_singleton_self _⟩
  exact ⟨outsideRoute mesh outside p, c, rfl, HttpRoute.isCatchAll_toCluster c, rfl, rfl, hc, rfl⟩

/-- The egress proxy takes requests under the hostnames of outside services. -/
theorem serves_egress_iff {mesh : Mesh} {services : List Service} {s : Settings}
    (h : egress mesh services = .ok s) {domain outside : String} {number : Nat} :
    s.Serves domain s!"{outside}:{number}" ↔
      ∃ other ∈ services, other.externalName = some outside ∧ ∃ p ∈ other.ports,
        p.protocol.isHttp = true ∧ p.number = number ∧ domain ∈ withPort number other.hostname := by
  rw [Settings.Serves, configs_egress h]
  simp only [List.mem_singleton, exists_eq_left]
  constructor
  · rintro ⟨v, hv, hdomain, hsends⟩
    obtain ⟨other, hother, outside', hout, p, hp, hhttp, rfl⟩ := mem_hosts_egressConfig.mp hv
    have hsame := (sendsTo_of_mem_hosts h hv).host_eq (isClosed_egress h) hsends
    obtain ⟨rfl, rfl⟩ := ported_inj.mp hsame
    exact ⟨other, hother, hout, p, hp, hhttp, rfl, hdomain⟩
  · rintro ⟨other, hother, hout, p, hp, hhttp, rfl, hdomain⟩
    have hv : outsideHost mesh other.hostname outside p ∈ (egressConfig mesh services).hosts :=
      mem_hosts_egressConfig.mpr ⟨other, hother, outside, hout, p, hp, hhttp, rfl⟩
    exact ⟨_, hv, hdomain, sendsTo_of_mem_hosts h hv⟩

/-- A name is the hostname of a service with a given name and port of requests outside. -/
def IsOutside (services : List Service) (outside : String) (number : Nat) (host : String) : Prop :=
  ∃ service ∈ services, service.hostname = host ∧ service.externalName = some outside ∧
    ∃ p ∈ service.ports, p.protocol.isHttp = true ∧ p.number = number

/-- Requests under some names are all served if and only if all the names are hostnames. -/
theorem serves_names_iff {mesh : Mesh} {services : List Service} {s : Settings}
    (h : egress mesh services = .ok s) (hvalid : ∀ service ∈ services, service.validate = [])
    {names : List String} {outside : String} {number : Nat} :
    (∀ domain ∈ names.flatMap (withPort number), s.Serves domain s!"{outside}:{number}") ↔
      ∀ host ∈ names, IsOutside services outside number host := by
  constructor
  · intro hserved host hhost
    have hdomain : s!"{host}:{number}" ∈ names.flatMap (withPort number) :=
      List.mem_flatMap.mpr ⟨host, hhost, mem_withPort.mpr (.inl rfl)⟩
    obtain ⟨other, hother, hout, p, hp, hhttp, hnumber, hmem⟩ :=
      (serves_egress_iff h).mp (hserved _ hdomain)
    have hcolon : ':' ∉ other.hostname.toList := Validation.notMem_of_fqdn
      (Service.fqdn_of_validate (hvalid other hother)) (by decide) (by decide)
    have hsame := ((ported_mem_withPort_iff hcolon).mp hmem).1
    exact ⟨other, hother, hsame, hout, p, hp, hhttp, hnumber⟩
  · intro hnames domain hdomain
    obtain ⟨host, hhost, hdomain⟩ := List.mem_flatMap.mp hdomain
    obtain ⟨other, hother, rfl, hout, p, hp, hhttp, hnumber⟩ := hnames host hhost
    exact (serves_egress_iff h).mpr ⟨other, hother, hout, p, hp, hhttp, hnumber, hdomain⟩

/-! ### Sidecars -/

section Sidecar

variable {mesh : Mesh} {registry : ρ} {policy : String → Tags → Option VersionPolicy} {node : Node}
  {instances : List Instance} {services : List Service} {rules : List RouteRule} {s : Settings}
  (h : sidecar mesh registry policy node instances services rules = .ok s)

include h

/-- A fixed host that routes lead to is a cluster of the settings. -/
theorem mem_clusters_sidecar_of_route {number : Nat} {config : RouteConfig}
    (hconfig : s.routes.find? number = some config) {v : VirtualHost} (hv : v ∈ config.hosts)
    {r : HttpRoute} (hr : r ∈ v.routes) {c : Cluster} (hc : c ∈ r.clusters) (hfixed : c.IsFixed) :
    c ∈ s.clusters := by
  have hcarried : c ∈ s.routes.clusters := List.mem_flatMap.mpr
    ⟨(number, config), Entries.mem_of_find? hconfig,
      List.mem_flatMap.mpr ⟨r, List.mem_flatMap.mpr ⟨v, hv, hr⟩, hc⟩⟩
  rw [routes_sidecar h] at hcarried
  obtain ⟨clusters, hclusters, rfl⟩ := exists_of_map_eq_ok h
  exact (mem_finishClusters hclusters).mpr
    ⟨c, List.mem_append_left _ hcarried, overlaid_fixed mesh registry policy hfixed⟩

/-- For a port of an outside service a sidecar has a virtual host that sends all requests to the
egress proxy and leaves the host in them as it is. -/
theorem exists_handover {address : String} (hescape : mesh.egressAddress = some address)
    {service : Service} (hservice : service ∈ services) (hexternal : service.isExternal = true)
    {port : Port} (hport : port ∈ service.ports) (hhttp : port.protocol.isHttp = true) :
    ∃ config, s.routes.find? port.number = some config ∧ ∃ v ∈ config.hosts,
      v.name = service.key port Tags.empty ∧ v.domains = domains service port (suffixOf instances) ∧
      v.SendsTo s address false := by
  let c := Cluster.ofHost (outboundName service.hostname port Tags.empty)
    mesh.connectTimeout.millis address port.protocol.isHttp2
  have hroutes : routesTo? mesh rules service port = some [.toCluster c] := by
    rw [routesTo?, if_pos hexternal, egressRoute?, hescape]
    rfl
  obtain ⟨config, hconfig, hv⟩ := exists_host_sidecar h hservice hport hhttp hroutes
  have hc : c ∈ s.clusters := mem_clusters_sidecar_of_route h hconfig hv
    (List.mem_singleton_self _) (List.mem_singleton_self _) (isFixed_ofHost _ _ _ _)
  exact ⟨config, hconfig, _, hv, rfl, rfl, .toCluster c, c, rfl, HttpRoute.isCatchAll_toCluster c,
    rfl, rfl, hc, rfl⟩

end Sidecar

/-- What a sidecar hands over for a port of an outside service is served by the egress proxy, if and
only if every name the sidecar has for the service is the hostname of a service with the same name
and port outside. Under its own hostname it always is, and that is the only name of a service
without an address that shares no label with the domain of the workload. -/
theorem handover_served_iff {mesh : Mesh} {registry : ρ} {store : σ} {node gate : Node}
    {services : List Service} {s t : Settings} (hrole : node.role = .sidecar)
    (hgate : gate.role = .egress) (hs : (settings mesh registry store node).1 = .ok s)
    (ht : (settings mesh registry store gate).1 = .ok t)
    (hservices : Directory.services registry = .ok services)
    (hvalid : ∀ service ∈ services, service.validate = []) {address : String}
    (hescape : mesh.egressAddress = some address) {service : Service}
    (hservice : service ∈ services) {outside : String}
    (hout : service.externalName = some outside) {port : Port} (hport : port ∈ service.ports)
    (hhttp : port.protocol.isHttp = true) :
    ∃ instances config v, Directory.hostInstances registry [node.address.text] = .ok instances ∧
      s.routes.find? port.number = some config ∧ v ∈ config.hosts ∧
      v.name = service.key port Tags.empty ∧
      v.domains = domains service port (suffixOf instances) ∧ v.SendsTo s address false ∧
      ((∀ domain ∈ v.domains, t.Serves domain s!"{outside}:{port.number}") ↔
        ∀ host ∈ hostNames service.hostname (suffixOf instances) ++ service.address.toList,
          IsOutside services outside port.number host) ∧
      (∀ domain ∈ withPort port.number service.hostname,
        domain ∈ v.domains ∧ t.Serves domain s!"{outside}:{port.number}") ∧
      (sharedAtEnd (suffixOf instances) (labels service.hostname) = 0 → service.address = none →
        ∀ domain ∈ v.domains, t.Serves domain s!"{outside}:{port.number}") := by
  obtain ⟨services', hservices', hegress⟩ := exists_egress_of_settings hgate ht
  obtain rfl : services' = services := Except.ok.inj (hservices'.symm.trans hservices)
  obtain ⟨instances, listed, hinstances, hlisted, hsidecar⟩ := exists_sidecar_of_settings hrole hs
  obtain rfl : listed = services' := Except.ok.inj (hlisted.symm.trans hservices)
  have hexternal : service.isExternal = true := by rw [Service.isExternal, hout]; rfl
  obtain ⟨config, hconfig, v, hv, hname, hdomains, hsends⟩ :=
    exists_handover hsidecar hescape hservice hexternal hport hhttp
  have hfqdn := Service.fqdn_of_validate (hvalid service hservice)
  have hwhole : IsOutside listed outside port.number service.hostname :=
    ⟨service, hservice, rfl, hout, port, hport, hhttp, rfl⟩
  have hserved : (∀ domain ∈ v.domains, t.Serves domain s!"{outside}:{port.number}") ↔
      ∀ host ∈ hostNames service.hostname (suffixOf instances) ++ service.address.toList,
        IsOutside listed outside port.number host := by
    rw [hdomains]
    exact serves_names_iff hegress hvalid
  refine ⟨instances, config, v, hinstances, hconfig, hv, hname, hdomains, hsends, hserved, ?_, ?_⟩
  · intro domain hdomain
    constructor
    · rw [hdomains]
      exact List.mem_flatMap.mpr ⟨service.hostname,
        List.mem_append_left _ (hostname_mem_hostNames hfqdn _), hdomain⟩
    · exact (serves_names_iff hegress hvalid).mpr (List.forall_mem_singleton.mpr hwhole) domain
        (List.mem_flatMap.mpr ⟨_, List.mem_singleton_self _, hdomain⟩)
  · intro hshared haddress
    refine hserved.mpr fun host hhost => ?_
    rw [haddress, Option.toList_none, List.append_nil] at hhost
    rw [eq_hostname_of_mem_hostNames hfqdn hshared hhost]
    exact hwhole

/-! ### An outside service in the domain of a workload -/

def httpbin : Service :=
  ⟨"httpbin.default.local", none, [⟨"http", 80, .http⟩], some "httpbin.org"⟩

def productpage : Service := ⟨"productpage.default.local", none, [⟨"http", 9080, .http⟩], none⟩

def withHttpbin : Registry.Memory := .afterOperations [
  .addService httpbin, .addService productpage,
  .addInstance productpage.hostname ⟨"10.1.1.1", 9080, "http", Tags.empty, none, none⟩]

def bookshop : Node := .ofSidecar (.v4 10 1 1 1)

theorem settings_withHttpbin :
    (∃ s, (settings .default withHttpbin (Config.Memory.new Rule.catalog) bookshop).1 = .ok s) ∧
      ∃ t, (settings .default withHttpbin (Config.Memory.new Rule.catalog) egressNode).1 =
        .ok t := by
  have hsound : withHttpbin.IsSound := Registry.Memory.isSound_afterOperations _
  have hinbound : Uniform (inboundPorts withHttpbin bookshop.address.text) := by decide
  have houtside : Uniform (outsidePorts withHttpbin) := by decide
  exact ⟨(settings_new_succeed_iff hsound .default _ bookshop).mpr hinbound,
    (settings_new_succeed_iff hsound .default _ egressNode).mpr houtside⟩

theorem services_withHttpbin : withHttpbin.services.values = [httpbin, productpage] := by
  decide +kernel

/-- The whole hostname is handed over and served. -/
theorem httpbin_served :
    ∃ s t, (settings .default withHttpbin (Config.Memory.new Rule.catalog) bookshop).1 = .ok s ∧
      (settings .default withHttpbin (Config.Memory.new Rule.catalog) egressNode).1 = .ok t ∧
      ∃ config v, s.routes.find? 80 = some config ∧ v ∈ config.hosts ∧
        v.SendsTo s "istio-egress:80" false ∧ "httpbin.default.local" ∈ v.domains ∧
        t.Serves "httpbin.default.local" "httpbin.org:80" := by
  obtain ⟨⟨s, hs⟩, t, ht⟩ := settings_withHttpbin
  have hservices : Directory.services withHttpbin = .ok [httpbin, productpage] :=
    congrArg Except.ok services_withHttpbin
  have hvalid : ∀ service ∈ [httpbin, productpage], service.validate = [] := by decide +kernel
  have hport : ⟨"http", 80, .http⟩ ∈ httpbin.ports := List.mem_singleton_self _
  obtain ⟨instances, config, v, -, hconfig, hv, -, -, hsends, -, hwhole, -⟩ :=
    handover_served_iff rfl rfl hs ht hservices hvalid rfl List.mem_cons_self rfl hport rfl
  obtain ⟨hlisted, hserved⟩ := hwhole "httpbin.default.local" (by decide)
  exact ⟨s, t, hs, ht, config, v, hconfig, hv, hsends, hlisted, hserved⟩

/-- Seen from the domain of the workload the service has a short name, which the egress proxy does
not know. -/
theorem httpbin_lost :
    ∃ s t, (settings .default withHttpbin (Config.Memory.new Rule.catalog) bookshop).1 = .ok s ∧
      (settings .default withHttpbin (Config.Memory.new Rule.catalog) egressNode).1 = .ok t ∧
      ∃ config v, s.routes.find? 80 = some config ∧ v ∈ config.hosts ∧
        v.name = httpbin.key ⟨"http", 80, .http⟩ Tags.empty ∧
        v.SendsTo s "istio-egress:80" false ∧ "httpbin" ∈ v.domains ∧
        ∀ c ∈ t.configs, ∀ w ∈ c.hosts, "httpbin" ∉ w.domains := by
  obtain ⟨⟨s, hs⟩, t, ht⟩ := settings_withHttpbin
  have hport : ⟨"http", 80, .http⟩ ∈ httpbin.ports := List.mem_singleton_self _
  have hsidecar : sidecar .default withHttpbin
      (Rule.versionPolicy? (Config.Memory.new Rule.catalog)) bookshop withHttpbin.instances
      withHttpbin.services.values (Rule.fromSource withHttpbin.instances []) = .ok s :=
    of_refuse hs
  have hservice : httpbin ∈ withHttpbin.services.values := by
    rw [services_withHttpbin]
    exact List.mem_cons_self
  obtain ⟨config, hconfig, v, hv, hname, hdomains, hsends⟩ :=
    exists_handover hsidecar rfl hservice rfl hport rfl
  have hegress : egress .default withHttpbin.services.values = .ok t := of_refuse ht
  refine ⟨s, t, hs, ht, config, v, hconfig, hv, hname, hsends, ?_, ?_⟩
  · rw [hdomains]
    decide +kernel
  · intro c hc w hw
    rw [configs_egress hegress, services_withHttpbin] at hc
    obtain rfl := List.mem_singleton.mp hc
    obtain ⟨service, hservice, outside, hout, p, hp, -, rfl⟩ := mem_hosts_egressConfig.mp hw
    rcases List.mem_cons.mp hservice with rfl | hinside
    · obtain rfl := List.mem_singleton.mp hp
      change "httpbin" ∉ withPort 80 "httpbin.default.local"
      decide
    · obtain rfl := List.mem_singleton.mp hinside
      cases hout

end Build

end MeshControl
