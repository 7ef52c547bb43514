import MeshControl.Build.Settings
import MeshControl.Proofs.Names
import MeshControl.Proofs.Proxy.Agreement
import MeshControl.Registry.Memory

/-!
Where the settings of a proxy send requests. A target is the part of a service that one cluster
stands for. Rules in force name targets at the ports they apply to, and a proxy has targets of
its own: services by themselves where no rule takes every request. Together they are the clusters
of its routes, but for those that lead to the egress proxy.
-/
namespace MeshControl.Build

open Proxy Registry

def targetCluster (mesh : Mesh) (t : Subset) : Cluster :=
  outboundCluster mesh t.hostname t.port t.tags

/-- A port of a service with all its instances. -/
def wholeService (service : Service) (port : Port) : Subset := ⟨service.hostname, port, Tags.empty⟩

/-! ### The routes of rules -/

/-- The targets of a rule at a port, its own destination if it lists none. -/
def ruleTargets (rule : RouteRule) (port : Port) : List Subset :=
  if rule.routes.isEmpty then [⟨rule.destination, port, Tags.empty⟩]
  else rule.routes.map fun w => ⟨w.destination.getD rule.destination, port, w.tags⟩

def isExpressible (rule : RouteRule) : Bool := (pathMatch? (ruleHeaders rule)).isSome

/-- Whether a rule takes every request, so that no rule behind it is reached. -/
def takesAll (rule : RouteRule) : Bool :=
  (pathMatch? (ruleHeaders rule)).any fun path =>
    (headerMatches (ruleHeaders rule)).isEmpty && path == .any

theorem ruleClusters_eq (mesh : Mesh) (rule : RouteRule) (port : Port) :
    ruleClusters mesh rule port = (ruleTargets rule port).map (targetCluster mesh) := by
  rw [ruleClusters, ruleTargets]
  split
  · rfl
  · rw [List.map_map]
    rfl

/-- What the route of a rule has to do with the rule. -/
structure Expresses (mesh : Mesh) (port : Port) (rule : RouteRule) (r : HttpRoute) : Prop where
  route : ruleRoute? mesh rule port = some r
  path : pathMatch? (ruleHeaders rule) = some r.path
  headers : r.headers = headerMatches (ruleHeaders rule)
  clusters : r.clusters = ruleClusters mesh rule port
  forward : r.forward = forwardTo rule.routes (ruleClusters mesh rule port)

/-- A rule has a route exactly if its condition on the path can be expressed. -/
theorem ruleRoute?_cases (mesh : Mesh) (port : Port) (rule : RouteRule) :
    pathMatch? (ruleHeaders rule) = none ∧ ruleRoute? mesh rule port = none ∨
      ∃ r, Expresses mesh port rule r := by
  cases hpath : pathMatch? (ruleHeaders rule) with
  | none => exact .inl ⟨rfl, by rw [ruleRoute?, hpath]; rfl⟩
  | some path => exact .inr ⟨_, by rw [ruleRoute?, hpath]; rfl, hpath, rfl, rfl, rfl⟩

theorem Expresses.leadsTo {mesh : Mesh} {port : Port} {rule : RouteRule} {r : HttpRoute}
    (h : Expresses mesh port rule r) :
    r.clusters = (ruleTargets rule port).map (targetCluster mesh) :=
  h.clusters.trans (ruleClusters_eq mesh rule port)

theorem ruleRoute?_of_inexpressible {mesh : Mesh} {rule : RouteRule} {port : Port}
    (h : isExpressible rule = false) : ruleRoute? mesh rule port = none := by
  rcases ruleRoute?_cases mesh port rule with ⟨-, hnone⟩ | ⟨r, hr⟩
  · exact hnone
  · simp [isExpressible, hr.path] at h

theorem ruleRoute?_of_expressible (mesh : Mesh) {rule : RouteRule} (port : Port)
    (h : isExpressible rule = true) : ∃ r, Expresses mesh port rule r := by
  rcases ruleRoute?_cases mesh port rule with ⟨hnone, -⟩ | hr
  · simp [isExpressible, hnone] at h
  · exact hr

/-- A list cut behind its first element that meets a condition. -/
def upTo {α : Type} (p : α → Bool) : List α → List α
  | [] => []
  | a :: l => if p a then [a] else a :: upTo p l

theorem mem_of_mem_upTo {α : Type} {p : α → Bool} {a : α} {l : List α} (h : a ∈ upTo p l) :
    a ∈ l := by
  induction l with
  | nil => exact h
  | cons b l ih =>
    rw [upTo] at h
    split at h
    · rw [List.mem_singleton.mp h]
      exact List.mem_cons_self
    · rcases List.mem_cons.mp h with rfl | hrest
      · exact List.mem_cons_self
      · exact List.mem_cons_of_mem _ (ih hrest)

/-- The rules for a service that can be expressed. -/
def rulesFor (rules : List RouteRule) (hostname : String) : List RouteRule :=
  (rules.filter (·.destination == hostname)).filter isExpressible

def rulesInForce (rules : List RouteRule) (hostname : String) : List RouteRule :=
  upTo takesAll (rulesFor rules hostname)

theorem mem_of_mem_rulesFor {rules : List RouteRule} {hostname : String} {rule : RouteRule}
    (h : rule ∈ rulesFor rules hostname) : rule ∈ rules :=
  List.mem_of_mem_filter (List.mem_of_mem_filter h)

theorem mem_of_mem_rulesInForce {rules : List RouteRule} {hostname : String} {rule : RouteRule}
    (h : rule ∈ rulesInForce rules hostname) : rule ∈ rules :=
  mem_of_mem_rulesFor (mem_of_mem_upTo h)

/-- The routes that are kept are those of the rules up to the first that takes every request. -/
theorem untilCatchAll_filterMap (mesh : Mesh) (port : Port) (fallback : HttpRoute)
    (rules : List RouteRule) :
    untilCatchAll fallback (rules.filterMap (ruleRoute? mesh · port)) =
      (upTo takesAll (rules.filter isExpressible)).filterMap (ruleRoute? mesh · port) ++
        if (rules.filter isExpressible).any takesAll then [] else [fallback] := by
  induction rules with
  | nil => rfl
  | cons rule rules ih =>
    cases hrule : isExpressible rule with
    | false =>
      have hnone : ruleRoute? mesh rule port = none := ruleRoute?_of_inexpressible hrule
      rw [List.filter_cons_of_neg (by simp [hrule]), ← ih]
      simp only [List.filterMap_cons, hnone]
    | true =>
      obtain ⟨r, hr⟩ := ruleRoute?_of_expressible mesh port hrule
      have hall : takesAll rule = r.isCatchAll := by
        simp [takesAll, hr.path, HttpRoute.isCatchAll, hr.headers]
      rw [List.filter_cons_of_pos (by simp [hrule]), upTo, List.any_cons, hall]
      simp only [List.filterMap_cons, hr.route, untilCatchAll]
      cases r.isCatchAll with
      | true => simp [hr.route]
      | false => simp [hr.route, ih]

theorem clusters_filterMap_ruleRoute? (mesh : Mesh) (port : Port) {rules : List RouteRule}
    (h : ∀ rule ∈ rules, isExpressible rule = true) :
    (rules.filterMap (ruleRoute? mesh · port)).flatMap (·.clusters) =
      rules.flatMap fun rule => (ruleTargets rule port).map (targetCluster mesh) := by
  induction rules with
  | nil => rfl
  | cons rule rules ih =>
    obtain ⟨hrule, hrules⟩ := List.forall_mem_cons.mp h
    obtain ⟨r, hr⟩ := ruleRoute?_of_expressible mesh port hrule
    simp only [List.filterMap_cons, hr.route]
    rw [List.flatMap_cons, List.flatMap_cons, hr.leadsTo, ih hrules]

theorem clusters_untilCatchAll (mesh : Mesh) (port : Port) (fallback : HttpRoute)
    (rules : List RouteRule) :
    (untilCatchAll fallback (rules.filterMap (ruleRoute? mesh · port))).flatMap (·.clusters) =
      (upTo takesAll (rules.filter isExpressible)).flatMap
          (fun rule => (ruleTargets rule port).map (targetCluster mesh)) ++
        if (rules.filter isExpressible).any takesAll then [] else fallback.clusters := by
  have hkept : ∀ rule ∈ upTo takesAll (rules.filter isExpressible), isExpressible rule = true :=
    fun rule hrule => (List.mem_filter.mp (mem_of_mem_upTo hrule)).2
  rw [untilCatchAll_filterMap, List.flatMap_append, clusters_filterMap_ruleRoute? mesh port hkept]
  split
  · rfl
  · rw [List.flatMap_singleton]

/-- The targets of the routes to one port of a service inside the mesh. -/
def requestTargets (rules : List RouteRule) (service : Service) (port : Port) : List Subset :=
  (rulesInForce rules service.hostname).flatMap (ruleTargets · port) ++
    if (rulesFor rules service.hostname).any takesAll then [] else [wholeService service port]

theorem clusters_destinationRoutes (mesh : Mesh) (service : Service) (port : Port)
    (rules : List RouteRule) :
    (destinationRoutes mesh service port rules).flatMap (·.clusters) =
      (requestTargets rules service port).map (targetCluster mesh) := by
  rw [destinationRoutes, clusters_untilCatchAll, requestTargets, List.map_append,
    List.map_flatMap, ← rulesFor, ← rulesInForce]
  split <;> rfl

/-! ### Sidecars -/

/-- The ports of some protocols, of the services inside the mesh or of those outside. -/
def portsWhere (external : Bool) (kind : Protocol → Bool) (services : List Service) :
    List (Service × Port) :=
  (services.filter (·.isExternal == external)).flatMap fun s =>
    (s.ports.filter (kind ·.protocol)).map fun p => (s, p)

theorem mem_portsWhere {external : Bool} {kind : Protocol → Bool} {services : List Service}
    {s : Service} {p : Port} :
    (s, p) ∈ portsWhere external kind services ↔
      (s ∈ services ∧ s.isExternal = external) ∧ p ∈ s.ports ∧ kind p.protocol = true := by
  simp only [portsWhere, List.mem_flatMap, List.mem_filter, List.mem_map, Prod.mk.injEq,
    beq_iff_eq]
  grind

theorem tcpPorts_eq (services : List Service) :
    tcpPorts services = portsWhere false Protocol.isTcp services := by
  simp [tcpPorts, portsWhere]

/-- The rules in force at each port of requests of each service inside the mesh. -/
def sidecarSenders (services : List Service) (rules : List RouteRule) : List (RouteRule × Port) :=
  (portsWhere false Protocol.isHttp services).flatMap fun (s, p) =>
    (rulesInForce rules s.hostname).map fun rule => (rule, p)

/-- The services that a sidecar reaches without a rule. -/
def sidecarDefaults (services : List Service) (rules : List RouteRule) : List Subset :=
  (((portsWhere false Protocol.isHttp services).filter fun (s, _) =>
      !(rulesFor rules s.hostname).any takesAll) ++
    portsWhere false Protocol.isTcp services).map fun (s, p) => wholeService s p

/-- The services that a sidecar reaches through the egress proxy. -/
def escapes (mesh : Mesh) (services : List Service) : List Subset :=
  if mesh.egressAddress.isSome then
    (portsWhere true Protocol.isHttp services).map fun (s, p) => wholeService s p
  else []

def escapeCluster (mesh : Mesh) (e : Subset) : Cluster :=
  .ofHost (outboundName e.hostname e.port e.tags) mesh.connectTimeout.millis
    (mesh.egressAddress.getD "") e.port.protocol.isHttp2

/-- The targets of some rules at some ports. -/
def sentTo (senders : List (RouteRule × Port)) : List Subset :=
  senders.flatMap fun (rule, p) => ruleTargets rule p

theorem mem_sentTo {senders : List (RouteRule × Port)} {t : Subset} :
    t ∈ sentTo senders ↔ ∃ rule p, (rule, p) ∈ senders ∧ t ∈ ruleTargets rule p := by
  simp [sentTo]

/-- Where a sidecar sends requests and connections inside the mesh. -/
def sidecarTargets (services : List Service) (rules : List RouteRule) : List Subset :=
  sentTo (sidecarSenders services rules) ++ sidecarDefaults services rules

theorem mem_sidecarSenders {services : List Service} {rules : List RouteRule} {rule : RouteRule}
    {p : Port} :
    (rule, p) ∈ sidecarSenders services rules ↔
      ∃ s, (s, p) ∈ portsWhere false Protocol.isHttp services ∧
        rule ∈ rulesInForce rules s.hostname := by
  simp only [sidecarSenders, List.mem_flatMap, List.mem_map, Prod.exists, Prod.mk.injEq]
  grind

theorem mem_sidecarDefaults {services : List Service} {rules : List RouteRule} {t : Subset} :
    t ∈ sidecarDefaults services rules ↔
      (∃ s p, (s, p) ∈ portsWhere false Protocol.isHttp services ∧
        (rulesFor rules s.hostname).any takesAll = false ∧ t = wholeService s p) ∨
      ∃ s p, (s, p) ∈ portsWhere false Protocol.isTcp services ∧ t = wholeService s p := by
  simp only [sidecarDefaults, List.mem_map, List.mem_append, List.mem_filter, Prod.exists]
  grind

theorem mem_requestTargets {rules : List RouteRule} {s : Service} {p : Port} {t : Subset} :
    t ∈ requestTargets rules s p ↔
      (∃ rule ∈ rulesInForce rules s.hostname, t ∈ ruleTargets rule p) ∨
        (rulesFor rules s.hostname).any takesAll = false ∧ t = wholeService s p := by
  rw [requestTargets, List.mem_append, List.mem_flatMap]
  split
  · next hall => simp [hall]
  · next hall => simp [hall]

/-- The clusters of the routes of a service at a port, inside the mesh or outside. -/
theorem mem_clusters_routesTo {mesh : Mesh} {rules : List RouteRule} {s : Service} {p : Port}
    {c : Cluster} :
    (∃ routes, routesTo? mesh rules s p = some routes ∧ ∃ r ∈ routes, c ∈ r.clusters) ↔
      (s.isExternal = false ∧ ∃ t ∈ requestTargets rules s p, c = targetCluster mesh t) ∨
        s.isExternal = true ∧ mesh.egressAddress.isSome = true ∧
          c = escapeCluster mesh (wholeService s p) := by
  rw [routesTo?]
  split
  · next hexternal =>
    simp only [hexternal, egressRoute?]
    cases haddress : mesh.egressAddress with
    | none => simp
    | some address => simp [HttpRoute.toCluster, escapeCluster, wholeService, haddress]
  · next hexternal =>
    have hinside : s.isExternal = false := by simpa using hexternal
    have hroutes := clusters_destinationRoutes mesh s p rules
    have hmem : (∃ r ∈ destinationRoutes mesh s p rules, c ∈ r.clusters) ↔
        ∃ t ∈ requestTargets rules s p, c = targetCluster mesh t := by
      rw [← List.mem_flatMap, hroutes, List.mem_map]
      simp only [eq_comm]
    simp [hinside, hmem]

theorem mem_clusters_outboundRoutes {mesh : Mesh} {instances : List Instance}
    {services : List Service} {rules : List RouteRule} {c : Cluster} :
    c ∈ (outboundRoutes mesh instances services rules).clusters ↔
      (∃ s p, (s, p) ∈ portsWhere false Protocol.isHttp services ∧
        ∃ t ∈ requestTargets rules s p, c = targetCluster mesh t) ∨
      ∃ e ∈ escapes mesh services, c = escapeCluster mesh e := by
  have hhosts : c ∈ (outboundRoutes mesh instances services rules).clusters ↔
      ∃ s p, (s ∈ services ∧ p ∈ s.ports ∧ p.protocol.isHttp = true) ∧
        ∃ routes, routesTo? mesh rules s p = some routes ∧ ∃ r ∈ routes, c ∈ r.clusters := by
    rw [outboundRoutes, RouteTable.mem_clusters_group]
    simp only [outboundHosts, List.mem_flatMap, List.mem_filterMap, List.mem_filter,
      Option.map_eq_some_iff, Prod.mk.injEq]
    constructor
    · rintro ⟨number, v, ⟨s, hs, p, hp, routes, hroutes, rfl, rfl⟩, hc⟩
      exact ⟨s, p, ⟨hs, hp⟩, routes, hroutes, hc⟩
    · rintro ⟨s, p, ⟨hs, hp⟩, routes, hroutes, hc⟩
      exact ⟨_, _, ⟨s, hs, p, hp, routes, hroutes, rfl, rfl⟩, hc⟩
  have hescapes : (∃ e ∈ escapes mesh services, c = escapeCluster mesh e) ↔
      ∃ s p, (s, p) ∈ portsWhere true Protocol.isHttp services ∧
        mesh.egressAddress.isSome = true ∧ c = escapeCluster mesh (wholeService s p) := by
    rw [escapes]
    split
    · next hsome => simp [hsome]
    · next hsome => simp [hsome]
  rw [hhosts, hescapes]
  simp only [mem_clusters_routesTo, mem_portsWhere]
  grind

/-! ### The edge -/

/-- Whether the route of a rule would take the requests of a path and some headers at a host. -/
def asksFor (path : PathMatch) (headers : List Header) (host : String) (rule : RouteRule) : Bool :=
  (pathMatch? (ruleHeaders rule)).any (· == path) &&
    otherHeaders (headerMatches (ruleHeaders rule)) == otherHeaders headers &&
      ((headerMatches (ruleHeaders rule)).find? isAuthority).all fun h =>
        !h.isPattern && h.value == host

/-- The rule whose route an ingress rule shows, itself if no route rule asks for the same. -/
def lender? (rules : List RouteRule) (hostname : String) (rule : RouteRule) : Option RouteRule :=
  (pathMatch? (ruleHeaders rule)).map fun path =>
    ((rulesFor rules hostname).find?
      (asksFor path (headerMatches (ruleHeaders rule)) (authority rule))).getD rule

/-- The rule behind what an ingress rule shows, with the port. -/
def edgeSender? (services : Table Service) (rules : List RouteRule) (r : IngressRule) :
    Option (RouteRule × Port) :=
  (services.find? r.rule.destination).bind fun s => (shownPort? r s).bind fun p =>
    (lender? rules s.hostname r.rule).map fun rule => (rule, p)

theorem samePredicate_of_ruleRoute? {mesh : Mesh} {rule : RouteRule} {port : Port}
    (path : PathMatch) (headers : List Header) (host : String) :
    (ruleRoute? mesh rule port).any (samePredicate path headers host) =
      (isExpressible rule && asksFor path headers host rule) := by
  cases hrule : isExpressible rule with
  | false => simp [ruleRoute?_of_inexpressible hrule]
  | true =>
    obtain ⟨r, hr⟩ := ruleRoute?_of_expressible mesh port hrule
    simp [samePredicate, asksFor, hr.route, hr.path, hr.headers]

/-- The first route that asks for the same is that of the first such rule. -/
theorem find?_filterMap_ruleRoute? (mesh : Mesh) (rules : List RouteRule) (hostname : String)
    (port : Port) (path : PathMatch) (headers : List Header) (host : String) :
    ((rules.filter (·.destination == hostname)).filterMap (ruleRoute? mesh · port)).find?
        (samePredicate path headers host) =
      ((rulesFor rules hostname).find? (asksFor path headers host)).bind
        (ruleRoute? mesh · port) := by
  rw [rulesFor]
  generalize rules.filter (·.destination == hostname) = own
  rw [List.find?_filterMap, List.find?_filter]
  simp only [samePredicate_of_ruleRoute?, Bool.decide_and, Bool.decide_eq_true]

theorem clusters_edgeRoute? (mesh : Mesh) (rules : List RouteRule) (service : Service)
    (port : Port) (rule : RouteRule) :
    (edgeRoute? mesh rules service port rule).map (·.clusters) =
      (lender? rules service.hostname rule).map fun lender =>
        (ruleTargets lender port).map (targetCluster mesh) := by
  rw [edgeRoute?, lender?]
  cases hpath : pathMatch? (ruleHeaders rule) with
  | none => rfl
  | some path =>
    have hrule : isExpressible rule = true := by simp [isExpressible, hpath]
    simp only [Option.bind_some, Option.map_some]
    rw [find?_filterMap_ruleRoute?]
    cases hfind : (rulesFor rules service.hostname).find?
        (asksFor path (headerMatches (ruleHeaders rule)) (authority rule)) with
    | none =>
      obtain ⟨r, hr⟩ := ruleRoute?_of_expressible mesh port hrule
      simp [hr.route, hr.leadsTo]
    | some lender =>
      have hlender : isExpressible lender = true :=
        (List.mem_filter.mp (List.mem_of_find?_eq_some hfind)).2
      obtain ⟨r, hr⟩ := ruleRoute?_of_expressible mesh port hlender
      simp [hr.route, hr.leadsTo]

theorem clusters_edgeRoutesOf (mesh : Mesh) (registry : Registry.Memory) (rules : List RouteRule)
    (r : IngressRule) :
    ∃ routes, edgeRoutesOf mesh registry rules r = .ok routes ∧
      routes.flatMap (·.route.clusters) =
        (sentTo (edgeSender? registry.services rules r).toList).map (targetCluster mesh) := by
  refine ⟨_, rfl, ?_⟩
  rw [edgeSender?]
  cases registry.services.find? r.rule.destination with
  | none => rfl
  | some s =>
    cases hport : shownPort? r s with
    | none => simp [hport, sentTo]
    | some p =>
      have hclusters := clusters_edgeRoute? mesh rules s p r.rule
      cases hlender : lender? rules s.hostname r.rule with
      | none =>
        have hnone : edgeRoute? mesh rules s p r.rule = none := by simpa [hlender] using hclusters
        simp [hport, hlender, hnone, sentTo]
      | some lender =>
        obtain ⟨route, hroute, hsent⟩ : ∃ route, edgeRoute? mesh rules s p r.rule = some route ∧
            route.clusters = (ruleTargets lender p).map (targetCluster mesh) := by
          simpa [hlender] using hclusters
        simp [hport, hlender, hroute, hsent, sentTo]

/-- A registry in memory answers, so the routes of all ingress rules are found. -/
theorem clusters_edgeRoutes (mesh : Mesh) (registry : Registry.Memory) (rules : List RouteRule)
    (ingressRules : List IngressRule) :
    ∃ routes, edgeRoutes mesh registry rules ingressRules = .ok routes ∧
      routes.flatMap (·.route.clusters) =
        (sentTo (ingressRules.filterMap (edgeSender? registry.services rules))).map
          (targetCluster mesh) := by
  induction ingressRules with
  | nil => exact ⟨[], rfl, rfl⟩
  | cons r ingressRules ih =>
    obtain ⟨rest, hrest, hclusters⟩ := ih
    obtain ⟨first, hfirst, hsent⟩ := clusters_edgeRoutesOf mesh registry rules r
    refine ⟨first ++ rest, ?_, ?_⟩
    · simp [edgeRoutes, hfirst, hrest, Except.map]
    · rw [List.flatMap_append, hsent, hclusters, ← List.map_append, List.filterMap_cons]
      cases edgeSender? registry.services rules r <;> simp [sentTo]

theorem mem_clusters_edgeConfig {secure : Bool} {routes : List EdgeRoute} {c : Cluster} :
    c ∈ (edgeConfig secure routes).clusters ↔
      ∃ e ∈ routes, e.secure = secure ∧ c ∈ e.route.clusters := by
  have hgroups : c ∈ (edgeConfig secure routes).clusters ↔
      ∃ host rs, (host, rs) ∈ Entries.group textLt
          ((routes.filter (·.secure == secure)).map fun e => (e.host, e.route)) ∧
        ∃ r ∈ rs, c ∈ r.clusters := by
    simp only [edgeConfig, RouteConfig.mem_clusters_ofHosts, List.mem_map, Prod.exists]
    constructor
    · rintro ⟨v, ⟨host, rs, hrs, rfl⟩, r, hr, hc⟩
      exact ⟨host, rs, hrs, r, List.mem_mergeSort.mp hr, hc⟩
    · rintro ⟨host, rs, hrs, r, hr, hc⟩
      exact ⟨_, ⟨host, rs, hrs, rfl⟩, r, List.mem_mergeSort.mpr hr, hc⟩
  rw [hgroups]
  constructor
  · rintro ⟨host, rs, hrs, r, hr, hc⟩
    have hmem := Entries.exists_mem_group_iff.mp ⟨rs, hrs, hr⟩
    obtain ⟨e, he, heq⟩ := List.mem_map.mp hmem
    obtain ⟨rfl, rfl⟩ := Prod.mk.inj heq
    rw [List.mem_filter, beq_iff_eq] at he
    exact ⟨e, he.1, he.2, hc⟩
  · rintro ⟨e, he, hsecure, hc⟩
    have hfilter : e ∈ routes.filter (·.secure == secure) :=
      List.mem_filter.mpr ⟨he, beq_iff_eq.mpr hsecure⟩
    have hmem : (e.host, e.route) ∈
        (routes.filter (·.secure == secure)).map fun e => (e.host, e.route) :=
      List.mem_map.mpr ⟨e, hfilter, rfl⟩
    obtain ⟨rs, hrs, hr⟩ := Entries.exists_mem_group_iff.mpr hmem
    exact ⟨e.host, rs, hrs, e.route, hr, hc⟩

theorem mem_clusters_edgeTable {routes : List EdgeRoute} {c : Cluster} :
    c ∈ RouteTable.clusters (edgeTable routes) ↔ c ∈ routes.flatMap (·.route.clusters) := by
  simp only [edgeTable, RouteTable.clusters, List.flatMap_cons, List.flatMap_nil,
    List.append_nil, List.mem_append, mem_clusters_edgeConfig, List.mem_flatMap]
  constructor
  · rintro (⟨e, he, -, hc⟩ | ⟨e, he, -, hc⟩)
    · exact ⟨e, he, hc⟩
    · exact ⟨e, he, hc⟩
  · rintro ⟨e, he, hc⟩
    cases hsecure : e.secure with
    | false => exact .inl ⟨e, he, hsecure, hc⟩
    | true => exact .inr ⟨e, he, hsecure, hc⟩

end MeshControl.Build
