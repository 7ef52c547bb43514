import MeshControl.Proofs.Build.FirstMatch
import MeshControl.Proofs.Build.Outbound
import MeshControl.Proofs.Build.RuleAdded

/-!
How far a fault of a rule reaches. Faults are injected by filters that look at the cluster a
request goes to and at its headers, not at the route that sent it there. So a fault stays with the
clusters its rule sends to: a request is disturbed on any route to them, and on no other.
-/
namespace MeshControl.Build

open Proxy Registry Config

variable {ρ σ : Type} [Directory ρ] [Store σ]

/-- A filter for a fault that a request meets on its way by a route. -/
structure Disturbs (l : Listener) (r : HttpRoute) (q : Request) (f : Fault) : Prop where
  filter : .fault f ∈ l.httpFilters
  cluster : f.cluster ∈ r.clusters.map (·.name)
  headers : f.headers.all q.meets = true

/-- The route of a rule without a fault, or that of a service without a rule. -/
inductive IsHarmless (mesh : Mesh) : HttpRoute → Prop
  | rule {rule : RouteRule} {port : Port} {r : HttpRoute}
      (hroute : ruleRoute? mesh rule port = some r) (hfault : rule.requestFault = none) :
      IsHarmless mesh r
  | default (service : Service) (port : Port) : IsHarmless mesh (defaultRoute mesh service port)

/-- A route that a rule with a fault makes of a port. -/
structure Injects (mesh : Mesh) (rule : RouteRule) (fault : RequestFault) (r : HttpRoute) :
    Prop where
  route : ∃ port, ruleRoute? mesh rule port = some r
  fault : rule.requestFault = some fault

/-! ### Faults of routes -/

theorem faults_of_ruleRoute? {mesh : Mesh} {rule : RouteRule} {port : Port} {r : HttpRoute}
    (h : ruleRoute? mesh rule port = some r) :
    r.faults = (rule.requestFault.map fun f => r.clusters.map (faultFor f)).getD [] := by
  obtain ⟨path, -, rfl⟩ := Option.map_eq_some_iff.mp h
  rfl

theorem IsHarmless.faults_eq_nil {mesh : Mesh} {r : HttpRoute} (h : IsHarmless mesh r) :
    r.faults = [] := by
  cases h with
  | rule hroute hfault =>
    rw [faults_of_ruleRoute? hroute, hfault]
    rfl
  | default service port => rfl

theorem Injects.mem_faults {mesh : Mesh} {rule : RouteRule} {fault : RequestFault}
    {r : HttpRoute} (h : Injects mesh rule fault r) {f : Fault} :
    f ∈ r.faults ↔ ∃ c ∈ r.clusters, faultFor fault c = f := by
  obtain ⟨⟨port, hroute⟩, hfault⟩ := h
  rw [faults_of_ruleRoute? hroute, hfault, Option.map_some, Option.getD_some, List.mem_map]

/-- Routes without a rule have no faults. -/
theorem exists_rule_of_mem_faults {mesh : Mesh} {rules : List RouteRule} {service : Service}
    {port : Port} {routes : List HttpRoute} (h : routesTo? mesh rules service port = some routes)
    {r : HttpRoute} (hr : r ∈ routes) {f : Fault} (hf : f ∈ r.faults) :
    ∃ rule ∈ rules, ∃ fault, Injects mesh rule fault r := by
  rw [routesTo?] at h
  split at h
  · obtain ⟨escape, hescape, rfl⟩ := Option.map_eq_some_iff.mp h
    obtain ⟨address, -, rfl⟩ := Option.map_eq_some_iff.mp hescape
    obtain rfl := List.mem_singleton.mp hr
    cases hf
  · obtain rfl := Option.some.inj h
    rcases mem_of_mem_untilCatchAll hr with rfl | hown
    · cases hf
    · obtain ⟨rule, hrule, hroute⟩ := List.mem_filterMap.mp hown
      rw [faults_of_ruleRoute? hroute] at hf
      cases hfault : rule.requestFault with
      | none =>
        rw [hfault] at hf
        cases hf
      | some fault =>
        exact ⟨rule, List.mem_of_mem_filter hrule, fault, ⟨port, hroute⟩, hfault⟩

theorem exists_rule_of_mem_config {mesh : Mesh} {instances : List Instance}
    {services : List Service} {rules : List RouteRule} {number : Nat} {config : RouteConfig}
    (h : RouteTable.find? (outboundRoutes mesh instances services rules) number = some config)
    {r : HttpRoute} (hr : r ∈ config.routes) {f : Fault} (hf : f ∈ r.faults) :
    ∃ rule ∈ rules, ∃ fault, Injects mesh rule fault r := by
  obtain ⟨v, hv, hr⟩ := List.mem_flatMap.mp hr
  obtain ⟨service, -, hhost⟩ := (mem_hosts_outboundRoutes h).mp hv
  obtain ⟨port, -, -, -, routes, hroutes, rfl⟩ := mem_outboundHosts.mp hhost
  exact exists_rule_of_mem_faults hroutes hr hf

/-- The routes to a service leave no request out. -/
theorem exists_find?_of_routesTo? {mesh : Mesh} {rules : List RouteRule} {service : Service}
    {port : Port} {routes : List HttpRoute} (h : routesTo? mesh rules service port = some routes)
    (q : Request) : ∃ r, routes.find? (·.serves q) = some r := by
  rw [routesTo?] at h
  split at h
  · obtain ⟨escape, hescape, rfl⟩ := Option.map_eq_some_iff.mp h
    obtain ⟨address, -, rfl⟩ := Option.map_eq_some_iff.mp hescape
    exact ⟨_, List.find?_cons_of_pos
      (HttpRoute.serves_of_isCatchAll (HttpRoute.isCatchAll_toCluster _) q)⟩
  · obtain rfl := Option.some.inj h
    exact ⟨_, find?_untilCatchAll (HttpRoute.isCatchAll_toCluster _) _ q⟩

/-! ### What disturbs a request -/

section Sidecar

variable {mesh : Mesh} {registry : ρ} {policy : String → Tags → Option VersionPolicy} {node : Node}
  {instances : List Instance} {services : List Service} {rules : List RouteRule} {s : Settings}
  {l : Listener} {number : Nat} {config : RouteConfig}

/-- The fault filters of a listener are for the faults of the routes it asks for. -/
theorem mem_faults_iff_of_asked?
    (h : sidecar mesh registry policy node instances services rules = .ok s)
    (hl : l ∈ s.listeners) (hasked : l.asked? = some number)
    (hconfig : s.routes.find? number = some config) {f : Fault} :
    .fault f ∈ l.httpFilters ↔ f ∈ config.faults := by
  rw [eq_of_asked? h hl hasked]
  exact fault_mem_httpFilters mesh node hconfig _

/-- What disturbs a request is the fault of a rule with a route to one of the same clusters. -/
theorem Disturbs.exists_injects {r : HttpRoute} {q : Request} {f : Fault}
    (hf : Disturbs l r q f)
    (h : sidecar mesh registry policy node instances services rules = .ok s)
    (hl : l ∈ s.listeners) (hasked : l.asked? = some number)
    (hconfig : s.routes.find? number = some config) :
    ∃ other ∈ config.routes, ∃ rule ∈ rules, ∃ fault, Injects mesh rule fault other ∧
      (∃ c ∈ other.clusters, c.name ∈ r.clusters.map (·.name)) ∧
      (headerMatches fault.headers).all q.meets = true := by
  obtain ⟨hfilter, hcluster, hheaders⟩ := hf
  obtain ⟨other, hother, hf⟩ :=
    List.mem_flatMap.mp ((mem_faults_iff_of_asked? h hl hasked hconfig).mp hfilter)
  obtain ⟨rule, hrule, fault, hinjects⟩ :=
    exists_rule_of_mem_config (routes_sidecar h ▸ hconfig) hother hf
  obtain ⟨c, hc, rfl⟩ := hinjects.mem_faults.mp hf
  exact ⟨other, hother, rule, hrule, fault, hinjects, ⟨c, hc, hcluster⟩, hheaders⟩

/-- The fault of a rule disturbs requests on every route to a cluster of the rule. -/
theorem Injects.exists_disturbs {rule : RouteRule} {fault : RequestFault} {other : HttpRoute}
    (hinjects : Injects mesh rule fault other)
    (h : sidecar mesh registry policy node instances services rules = .ok s)
    (hl : l ∈ s.listeners) (hasked : l.asked? = some number)
    (hconfig : s.routes.find? number = some config) (hother : other ∈ config.routes)
    {r : HttpRoute} (hshared : ∃ c ∈ other.clusters, c.name ∈ r.clusters.map (·.name))
    {q : Request} (hheaders : (headerMatches fault.headers).all q.meets = true) :
    ∃ f, Disturbs l r q f := by
  obtain ⟨c, hc, hcluster⟩ := hshared
  have hf : faultFor fault c ∈ other.faults := hinjects.mem_faults.mpr ⟨c, hc, rfl⟩
  have hfilter := (mem_faults_iff_of_asked? h hl hasked hconfig).mpr
    (List.mem_flatMap.mpr ⟨other, hother, hf⟩)
  exact ⟨faultFor fault c, hfilter, hcluster, hheaders⟩

end Sidecar

theorem mem_routeRules_of_mem_fromSource {store : σ} {instances : List Instance}
    {rule : RouteRule} (h : rule ∈ Rule.fromSource instances (Rule.routeRules store).1) :
    rule ∈ (Rule.routeRules store).1 :=
  List.mem_of_mem_filter (List.mem_mergeSort.mp h)

/-- A fault stays with the clusters its rule sends to. Every request to a virtual host has a first
route. If that has no fault of its own, be it the route of a rule without one or of no rule, the
request is disturbed if and only if another route on the same port has a fault, leads to one of
the same clusters, and the request has the headers that this fault asks for. -/
theorem disturbed_iff_shares_cluster {mesh : Mesh} {registry : ρ} {store : σ} {node : Node}
    {s : Settings} (hrole : node.role = .sidecar)
    (h : (settings mesh registry store node).1 = .ok s) {l : Listener} (hl : l ∈ s.listeners)
    {number : Nat} (hasked : l.asked? = some number) :
    ∃ config, s.routes.find? number = some config ∧
      ∀ v ∈ config.hosts, ∀ q, ∃ r, v.routes.find? (·.serves q) = some r ∧
        (IsHarmless mesh r →
          ((∃ f, Disturbs l r q f) ↔
            ∃ other ∈ config.routes, other ≠ r ∧ ∃ rule ∈ (Rule.routeRules store).1, ∃ fault,
              Injects mesh rule fault other ∧
              (∃ c ∈ other.clusters, c.name ∈ r.clusters.map (·.name)) ∧
              (headerMatches fault.headers).all q.meets = true)) := by
  obtain ⟨config, hconfig⟩ := (isClosed_settings h).asked l hl number hasked
  refine ⟨config, hconfig, ?_⟩
  obtain ⟨instances, services, -, -, hbuilt⟩ := exists_sidecar_of_settings hrole h
  intro v hv q
  obtain ⟨service, -, hhost⟩ := (mem_hosts_outboundRoutes (routes_sidecar hbuilt ▸ hconfig)).mp hv
  obtain ⟨port, -, -, -, routes, hroutes, rfl⟩ := mem_outboundHosts.mp hhost
  obtain ⟨r, hfirst⟩ := exists_find?_of_routesTo? hroutes q
  refine ⟨r, hfirst, fun hharmless => ⟨?_, ?_⟩⟩
  · rintro ⟨f, hf⟩
    obtain ⟨other, hother, rule, hrule, fault, hinjects, ⟨c, hc, hname⟩, hheaders⟩ :=
      hf.exists_injects hbuilt hl hasked hconfig
    have hown : faultFor fault c ∈ other.faults := hinjects.mem_faults.mpr ⟨c, hc, rfl⟩
    have hne : other ≠ r := by
      rintro rfl
      rw [hharmless.faults_eq_nil] at hown
      cases hown
    exact ⟨other, hother, hne, rule, mem_routeRules_of_mem_fromSource hrule, fault, hinjects,
      ⟨c, hc, hname⟩, hheaders⟩
  · rintro ⟨other, hother, -, rule, -, fault, hinjects, hshared, hheaders⟩
    exact hinjects.exists_disturbs hbuilt hl hasked hconfig hother hshared hheaders

/-! ### The fault of another service -/

/-- A rule that sends what is meant for one service to another, with a fault. -/
def faultyToRatings : Config.Message := ⟨"pilot.v1.RouteRule", .obj [
  ("destination", .str "reviews.local"), ("httpFault", .obj []), ("name", .str "to-ratings"),
  ("route", .arr [.obj [("destination", .str "ratings.local"), ("weight", .int 100)]])]⟩

def faultyRule : RouteRule :=
  { toRatingsRule with requestFault := some ⟨none, none, Table.empty⟩ }

def faultyStore : Config.Memory := ((Config.Memory.new Rule.catalog).post faultyToRatings).2

def ratings : Service := ⟨"ratings.local", none, [http], none⟩

theorem sidecarRules_faultyStore : sidecarRules (shop 80) faultyStore caller = [faultyRule] :=
  List.mergeSort_singleton _

theorem settings_faultyStore :
    ∃ s, (settings .default (shop 80) faultyStore caller).1 = .ok s := by
  have hsound : (shop 80).IsSound := Registry.Memory.isSound_afterOperations _
  have hchecked : StoreChecked faultyStore := storeChecked_of_accepted rfl
    (Config.Memory.allAccepted_afterCalls Rule.catalog [.post faultyToRatings])
  have htargets : targets (shop 80) faultyStore caller =
      sidecarTargets (shop 80).services.values [faultyRule] := by
    rw [targets_of_sidecar _ _ rfl, sidecarRules_faultyStore]
  have hports : Uniform (inboundPorts (shop 80) caller.address.text) := by decide +kernel
  apply (settings_succeed_iff hsound .default hchecked caller).mpr
  rw [htargets]
  refine ⟨by decide +kernel, ?_, hports⟩
  intro t _ e he
  cases he

/-- Both services are on one port, and their routes are behind one listener. -/
theorem exists_config_faultyStore :
    ∃ s l config, (settings .default (shop 80) faultyStore caller).1 = .ok s ∧
      sidecar .default (shop 80) (Rule.versionPolicy? faultyStore) caller [] [ratings, reviews]
        [faultyRule] = .ok s ∧
      l ∈ s.listeners ∧ l.asked? = some 80 ∧ s.routes.find? 80 = some config ∧
      virtualHost ratings http [] (destinationRoutes .default ratings http [faultyRule]) ∈
        config.hosts ∧
      virtualHost reviews http [] (destinationRoutes .default reviews http [faultyRule]) ∈
        config.hosts := by
  obtain ⟨s, h⟩ := settings_faultyStore
  have hrules : Rule.fromSource [] (Rule.routeRules faultyStore).1 = [faultyRule] :=
    sidecarRules_faultyStore
  have hbuilt : sidecar .default (shop 80) (Rule.versionPolicy? faultyStore) caller []
      [ratings, reviews] [faultyRule] = .ok s := by
    rw [← hrules]
    exact of_refuse h
  have hport : http ∈ [http] := List.mem_singleton_self http
  obtain ⟨config, hconfig, hratings⟩ :=
    exists_host_sidecar hbuilt List.mem_cons_self hport rfl rfl
  obtain ⟨config', hconfig', hreviews⟩ := exists_host_sidecar hbuilt
    (List.mem_cons_of_mem _ (List.mem_singleton_self reviews)) hport rfl rfl
  obtain rfl : config' = config := Option.some.inj (hconfig'.symm.trans hconfig)
  obtain ⟨l, hl, hasked⟩ := exists_asked? hbuilt hconfig nofun
  exact ⟨s, l, config', h, hbuilt, hl, hasked, hconfig, hratings, hreviews⟩

/-- No rule is for the second service. -/
theorem find?_ratings :
    (destinationRoutes .default ratings http [faultyRule]).find? (·.serves bareRequest) =
      some (defaultRoute .default ratings http) :=
  find?_destinationRoutes .default ratings http [faultyRule] bareRequest

theorem ratings_disturbed_iff :
    ∃ s l config, (settings .default (shop 80) faultyStore caller).1 = .ok s ∧ l ∈ s.listeners ∧
      l.asked? = some 80 ∧ s.routes.find? 80 = some config ∧
      ((∃ f, Disturbs l (defaultRoute .default ratings http) bareRequest f) ↔
        ∃ other ∈ config.routes, other ≠ defaultRoute .default ratings http ∧
          ∃ rule ∈ (Rule.routeRules faultyStore).1, ∃ fault, Injects .default rule fault other ∧
            (∃ c ∈ other.clusters,
              c.name ∈ (defaultRoute .default ratings http).clusters.map (·.name)) ∧
            (headerMatches fault.headers).all bareRequest.meets = true) := by
  obtain ⟨s, l, config, h, -, hl, hasked, hconfig, hratings, -⟩ := exists_config_faultyStore
  refine ⟨s, l, config, h, hl, hasked, hconfig, ?_⟩
  obtain ⟨config', hconfig', hall⟩ := disturbed_iff_shares_cluster rfl h hl hasked
  obtain rfl : config' = config := Option.some.inj (hconfig'.symm.trans hconfig)
  obtain ⟨r, hfirst, hiff⟩ := hall _ hratings bareRequest
  obtain rfl : r = _ := Option.some.inj (hfirst.symm.trans find?_ratings)
  exact hiff (.default ratings http)

/-- Requests to the second service have the default route, and meet the fault of the rule for the
first. -/
theorem ratings_disturbed :
    faultyToRatings.decode? RouteRule = some faultyRule ∧ faultyRule.validate = .ok [] ∧
      ∃ s l config, (settings .default (shop 80) faultyStore caller).1 = .ok s ∧
        l ∈ s.listeners ∧ l.asked? = some 80 ∧ s.routes.find? 80 = some config ∧
        (∃ v ∈ config.hosts, v.routes.find? (·.serves bareRequest) =
          some (defaultRoute .default ratings http)) ∧
        ∃ f, Disturbs l (defaultRoute .default ratings http) bareRequest f := by
  obtain ⟨s, l, config, h, hbuilt, hl, hasked, hconfig, hratings, hreviews⟩ :=
    exists_config_faultyStore
  have hinjects : Injects .default faultyRule _ _ := ⟨⟨http, rfl⟩, rfl⟩
  refine ⟨rfl, rfl, s, l, config, h, hl, hasked, hconfig, ⟨_, hratings, find?_ratings⟩, ?_⟩
  exact hinjects.exists_disturbs hbuilt hl hasked hconfig
    (List.mem_flatMap.mpr ⟨_, hreviews, List.mem_singleton_self _⟩)
    ⟨_, List.mem_singleton_self _, by decide⟩ rfl

end MeshControl.Build
