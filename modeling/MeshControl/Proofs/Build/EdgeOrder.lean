import MeshControl.Proofs.Build.Exposure
import MeshControl.Proofs.Proxy.Paths

/-!
In which order the ingress proxy tries its routes. Within a virtual host routes are sorted by
path, and this keeps the order of the rules that contribute them: that of their keys. So a request
is served by the most specific path and, among rules for one path, by the rule with the smallest
key. Precedence, which orders route rules, plays no part among ingress rules.
-/
namespace MeshControl.Build

open Proxy Registry Config

variable {ρ σ : Type} [Directory ρ] [Store σ]

/-! ### What each rule contributes -/

def EdgeRoute.port (e : EdgeRoute) : Nat := if e.secure then securePort else plainPort

/-- An ingress rule contributes a route to a virtual host of a port. -/
def Contributes (mesh : Mesh) (registry : ρ) (rules : List RouteRule) (g : IngressRule)
    (port : Nat) (host : String) (r : HttpRoute) : Prop :=
  ∃ e, contribution? mesh registry rules g = some e ∧ e.port = port ∧ e.host = host ∧ e.route = r

section

variable {mesh : Mesh} {registry : ρ} {rules : List RouteRule} {ingressRules : List IngressRule}

/-- A rule contributes one route at most. -/
theorem Contributes.route_eq {g : IngressRule} {port port' : Nat} {host host' : String}
    {r r' : HttpRoute} (h : Contributes mesh registry rules g port host r)
    (h' : Contributes mesh registry rules g port' host' r') : r = r' := by
  obtain ⟨e, he, -, -, rfl⟩ := h
  obtain ⟨e', he', -, -, rfl⟩ := h'
  rw [Option.some.inj (he.symm.trans he')]

/-! ### The routes of a virtual host -/

/-- The routes of a virtual host in the order in which they are tried, each with the rule that
contributes it. -/
def ranking (contributions : List (IngressRule × EdgeRoute)) (port : Nat) (host : String) :
    List (IngressRule × HttpRoute) :=
  ((contributions.filter fun c => c.2.port == port && c.2.host == host).map fun c =>
    (c.1, c.2.route)).mergeSort fun a b => a.2.path.compare b.2.path != .gt

theorem mem_ranking {port : Nat} {host : String} {g : IngressRule} {r : HttpRoute} :
    (g, r) ∈ ranking (contributions mesh registry rules ingressRules) port host ↔
      g ∈ ingressRules ∧ Contributes mesh registry rules g port host r := by
  simp only [ranking, List.mem_mergeSort, List.mem_map, List.mem_filter, Bool.and_eq_true,
    beq_iff_eq, Prod.mk.injEq]
  constructor
  · rintro ⟨⟨g', e⟩, ⟨hmem, hport, hhost⟩, rfl, rfl⟩
    obtain ⟨hg, he⟩ := mem_contributions.mp hmem
    exact ⟨hg, e, he, hport, hhost, rfl⟩
  · rintro ⟨hg, e, he, hport, hhost, rfl⟩
    exact ⟨(g, e), ⟨mem_contributions.mpr ⟨hg, he⟩, hport, hhost⟩, rfl, rfl⟩

instance : Std.TransCmp fun a b : IngressRule × HttpRoute => a.2.path.compare b.2.path where
  eq_swap := Std.OrientedCmp.eq_swap
  isLE_trans := Std.TransCmp.isLE_trans

/-- Routes are tried in the order of their paths, and for one path in the order of the rules. -/
theorem pairwise_ranking {R : IngressRule → IngressRule → Prop} (h : ingressRules.Pairwise R)
    (port : Nat) (host : String) :
    (ranking (contributions mesh registry rules ingressRules) port host).Pairwise fun a b =>
      (a.2.path.compare b.2.path).isLE = true ∧ (a.2.path = b.2.path → R a.1 b.1) := by
  let shown := (contributions mesh registry rules ingressRules).filter fun c =>
    c.2.port == port && c.2.host == host
  have hlabelled : (shown.map fun c => (c.1, c.2.route)).Pairwise fun a b => R a.1 b.1 :=
    List.pairwise_map.mpr ((pairwise_contributions h).filter _)
  apply (pairwise_mergeSort_cmp hlabelled).imp
  intro a b hab
  refine ⟨hab.1, fun hpath => hab.2 ?_⟩
  rw [hpath]
  exact Std.ReflCmp.compare_self

/-- Each rule has one place in a ranking. -/
theorem nodup_ranking (h : ingressRules.Pairwise fun a b => Spec.key a < Spec.key b) (port : Nat)
    (host : String) :
    (ranking (contributions mesh registry rules ingressRules) port host).Nodup := by
  apply (List.mergeSort_perm _ _).nodup_iff.mpr
  apply List.pairwise_map.mpr
  apply ((pairwise_contributions h).filter _).imp
  intro a b hlt heq
  rw [(Prod.mk.inj heq).1] at hlt
  exact String.lt_irrefl _ hlt

/-- Grouping by hosts finds what is contributed to a host of a port. -/
theorem valuesAt_contributions (shown : List (IngressRule × EdgeRoute)) (secure : Bool)
    (host : String) :
    Entries.valuesAt host (((shown.map (·.2)).filter (·.secure == secure)).map fun e =>
        (e.host, e.route)) =
      ((shown.filter fun c => c.2.port == (if secure then securePort else plainPort) &&
        c.2.host == host).map fun c => (c.1, c.2.route)).map (·.2) := by
  have hport : ∀ c : IngressRule × EdgeRoute,
      (c.2.port == if secure then securePort else plainPort) = (c.2.secure == secure) := by
    intro c
    rw [EdgeRoute.port]
    cases c.2.secure <;> cases secure <;> rfl
  simp only [Entries.valuesAt, List.filter_map, List.map_map, List.filter_filter, hport,
    Function.comp_def]
  congr 1
  apply List.filter_congr
  intro c _
  exact Bool.and_comm _ _

theorem routes_of_mem_edgeConfig {shown : List (IngressRule × EdgeRoute)} {secure : Bool}
    {v : VirtualHost} (hv : v ∈ (edgeConfig secure (shown.map (·.2))).hosts) :
    v.routes = (ranking shown (if secure then securePort else plainPort) v.name).map (·.2) := by
  obtain ⟨⟨host, group⟩, hgroup, rfl⟩ := List.mem_map.mp (List.mem_mergeSort.mp hv)
  obtain ⟨_, -, heq⟩ := List.mem_map.mp hgroup
  obtain ⟨rfl, rfl⟩ := Prod.mk.inj heq
  show HttpRoute.sortByPath _ = _
  rw [valuesAt_contributions, HttpRoute.sortByPath]
  exact (List.map_mergeSort (f := fun c : IngressRule × HttpRoute => c.2) fun _ _ _ _ => rfl).symm

theorem routes_of_mem_edgeTable {shown : List (IngressRule × EdgeRoute)} {e : Nat × RouteConfig}
    (he : e ∈ edgeTable (shown.map (·.2))) {v : VirtualHost} (hv : v ∈ e.2.hosts) :
    v.routes = (ranking shown e.1 v.name).map (·.2) := by
  rcases List.mem_cons.mp he with rfl | he
  · exact routes_of_mem_edgeConfig hv
  · obtain rfl := List.mem_singleton.mp he
    exact routes_of_mem_edgeConfig hv

/-- Every route has its virtual host. -/
theorem exists_host_edgeTable {routes : List EdgeRoute} {e : EdgeRoute} (he : e ∈ routes) :
    ∃ config, (e.port, config) ∈ edgeTable routes ∧ ∃ v ∈ config.hosts, v.name = e.host := by
  refine ⟨edgeConfig e.secure routes, ?_, ?_⟩
  · rw [EdgeRoute.port]
    cases e.secure with
    | false => exact List.mem_cons_self
    | true => exact List.mem_cons_of_mem _ List.mem_cons_self
  · have hown : (e.host, e.route) ∈
        (routes.filter (·.secure == e.secure)).map fun e => (e.host, e.route) :=
      List.mem_map.mpr ⟨e, List.mem_filter.mpr ⟨he, beq_self_eq_true _⟩, rfl⟩
    have hname := (name_hosts_edgeConfig e.secure routes).mem_iff.mpr
      (Entries.mem_keysOf.mpr ⟨e.route, hown⟩)
    exact List.mem_map.mp hname

end

/-- The routes of the ingress proxy are those that its rules contribute. -/
theorem routes_of_ingress_settings {mesh : Mesh} {registry : ρ} {store : σ} {node : Node}
    {s : Settings} (hrole : node.role = .ingress)
    (h : (settings mesh registry store node).1 = .ok s) :
    s.routes = edgeTable ((contributions mesh registry (edgeRules (Rule.routeRules store).1)
      (Rule.ingressRules (Rule.routeRules store).2).1).map (·.2)) := by
  simp only [settings, hrole, ingressSettings] at h
  split at h
  · cases h
  · next routes hroutes =>
    obtain ⟨clusters, -, rfl⟩ := exists_of_map_eq_ok (of_refuse h)
    rw [← edgeRoutes_eq_map_contributions hroutes]

theorem exists_host_of_contributes {mesh : Mesh} {registry : ρ} {store : σ} {node : Node}
    {s : Settings} (hrole : node.role = .ingress)
    (h : (settings mesh registry store node).1 = .ok s) {g : IngressRule}
    (hg : g ∈ (Rule.ingressRules (Rule.routeRules store).2).1) {port : Nat} {host : String}
    {r : HttpRoute}
    (hr : Contributes mesh registry (edgeRules (Rule.routeRules store).1) g port host r) :
    ∃ config, (port, config) ∈ s.routes ∧ ∃ v ∈ config.hosts, v.name = host := by
  obtain ⟨e, he, rfl, rfl, rfl⟩ := hr
  rw [routes_of_ingress_settings hrole h]
  exact exists_host_edgeTable (List.mem_map.mpr ⟨(g, e), mem_contributions.mpr ⟨hg, he⟩, rfl⟩)

/-! ### The first route -/

/-- Where no headers are asked for, the first contribution that takes a request stands before all
others whose paths cover that of the request, and its rule before theirs if the path is the same. -/
theorem exists_first_of_ranking {mesh : Mesh} {registry : ρ} {rules : List RouteRule}
    {ingressRules : List IngressRule}
    (hsorted : ingressRules.Pairwise fun a b => Spec.key a ≤ Spec.key b) {port : Nat}
    {host path : String} {meets : Header → Bool} :
    let ranked := ranking (contributions mesh registry rules ingressRules) port host
    (∀ c ∈ ranked, c.2.headers = []) → (∃ c ∈ ranked, c.2.takes path meets = true) →
      ∃ first, ranked.find? (·.2.takes path meets) = some first ∧
        ∀ c ∈ ranked, c.2.path.covers path = true →
          (first.2.path.compare c.2.path).isLE = true ∧
            (first.2.path = c.2.path → Spec.key first.1 ≤ Spec.key c.1) := by
  intro ranked hbare hsome
  obtain ⟨first, hfirst⟩ := Option.isSome_iff_exists.mp (List.find?_isSome.mpr hsome)
  refine ⟨first, hfirst, fun c hc hcovers => ?_⟩
  have htakes : c.2.takes path meets = true := by
    rw [HttpRoute.takes_eq_covers (hbare c hc)]
    exact hcovers
  rcases eq_or_rel_of_find? (pairwise_ranking hsorted port host) hfirst hc htakes with
    rfl | hbefore
  · exact ⟨Std.ReflCmp.isLE_rfl, fun _ => String.le_refl _⟩
  · exact hbefore

/-- In a virtual host whose routes ask for no headers, a request is served by the most specific
route for its path, if by any; and this route is contributed by the rule with the smallest key
among those for the same path. -/
theorem ingress_serves_most_specific {mesh : Mesh} {registry : ρ} {store : σ} {node : Node}
    {s : Settings} (hrole : node.role = .ingress)
    (h : (settings mesh registry store node).1 = .ok s)
    (hsorted : (Rule.ingressRules (Rule.routeRules store).2).1.Pairwise fun a b =>
      Spec.key a ≤ Spec.key b) :
    let rules := edgeRules (Rule.routeRules store).1
    let ingressRules := (Rule.ingressRules (Rule.routeRules store).2).1
    ∀ e ∈ s.routes, ∀ v ∈ e.2.hosts, (∀ r ∈ v.routes, r.headers = []) →
      ∀ path meets, (∃ q ∈ v.routes, q.takes path meets = true) →
        ∃ r, v.routes.find? (·.takes path meets) = some r ∧ r.IsMostSpecific v.routes path ∧
          ∃ g ∈ ingressRules, Contributes mesh registry rules g e.1 v.name r ∧
            ∀ g' ∈ ingressRules, ∀ r', Contributes mesh registry rules g' e.1 v.name r' →
              r'.path = r.path → Spec.key g ≤ Spec.key g' := by
  intro rules ingressRules e he v hv
  rw [routes_of_mem_edgeTable (routes_of_ingress_settings hrole h ▸ he) hv]
  rintro hbare path meets ⟨q, hq, htakes⟩
  rw [List.forall_mem_map] at hbare
  obtain ⟨c, hc, rfl⟩ := List.mem_map.mp hq
  obtain ⟨⟨g, r⟩, hfind, hfirst⟩ := exists_first_of_ranking hsorted hbare ⟨c, hc, htakes⟩
  have hmem := List.mem_of_find?_eq_some hfind
  obtain ⟨hg, hcontributes⟩ := mem_ranking.mp hmem
  have hcovers : r.path.covers path = true := by
    rw [← HttpRoute.takes_eq_covers (hbare _ hmem) path meets]
    exact List.find?_some (p := fun c : IngressRule × HttpRoute => c.2.takes path meets) hfind
  refine ⟨r, ?_, ?_, g, hg, hcontributes, ?_⟩
  · rw [List.find?_map]
    exact congrArg (Option.map (·.2)) hfind
  · apply HttpRoute.isMostSpecific_of_isLE (List.mem_map_of_mem hmem) hcovers
    intro q hq hqcovers
    obtain ⟨c, hc, rfl⟩ := List.mem_map.mp hq
    exact (hfirst c hc hqcovers).1
  · intro g' hg' r' hcontributes' hpath
    rw [← hpath] at hcovers
    exact (hfirst _ (mem_ranking.mpr ⟨hg', hcontributes'⟩) hcovers).2 hpath.symm

/-! ### Two rules for one path -/

/-- Shows a version of a service to all requests. -/
def showVersion (name : String) (precedence : Int) (version : String) : Config.Call :=
  ingressRule [
    ("destination", .str "reviews.local"), ("destinationServicePort", .int 80),
    ("name", .str name), ("precedence", .int precedence),
    ("route", .arr [.obj [("tags", .obj [("version", .str version)]), ("weight", .int 100)]])]

def showVersionRule (name : String) (precedence : Int) (version : String) : IngressRule where
  rule := {
    name := name
    destination := "reviews.local"
    precedence := precedence
    condition := none
    routes := [⟨none, Tags.ofList [("version", version)], 100⟩]
    timeout := none
    retries := none
    requestFault := none
    connectionFault := none }
  portName := none
  portNumber := some 80
  secret := none

def versionRoute (version : String) : HttpRoute :=
  .toCluster (outboundCluster .default "reviews.local" ⟨"http", 80, .http⟩
    (Tags.ofList [("version", version)]))

/-- Of two rules for all requests, the second has the higher precedence. -/
def rivalStore : Config.Memory := Config.afterCalls (Config.Memory.new Rule.catalog)
  [showVersion "a-low" 1 "1", showVersion "b-high" 2 "2"]

def lowRule : IngressRule := showVersionRule "a-low" 1 "1"

def highRule : IngressRule := showVersionRule "b-high" 2 "2"

theorem ingressRules_rivalStore :
    (Rule.ingressRules (Rule.routeRules rivalStore).2).1 = [lowRule, highRule] := rfl

theorem settings_rivalStore :
    ∃ s, (settings .default (shop 80) rivalStore gateway).1 = .ok s := by
  have hsound : (shop 80).IsSound := Registry.Memory.isSound_afterOperations _
  have hchecked : StoreChecked rivalStore := storeChecked_of_accepted rfl
    (Config.Memory.allAccepted_afterCalls Rule.catalog _)
  apply (settings_succeed_iff hsound .default hchecked gateway).mpr
  refine ⟨?_, nofun, trivial⟩
  decide +kernel

theorem pairwise_key_rivalStore :
    (Rule.ingressRules (Rule.routeRules rivalStore).2).1.Pairwise fun a b =>
      Spec.key a < Spec.key b := by
  rw [ingressRules_rivalStore]
  decide

/-- What the rules contribute, in the order of their keys. -/
theorem contributions_rivalStore :
    contributions .default (shop 80) (edgeRules (Rule.routeRules rivalStore).1)
        (Rule.ingressRules (Rule.routeRules rivalStore).2).1 =
      [(lowRule, ⟨false, "*", versionRoute "1"⟩), (highRule, ⟨false, "*", versionRoute "2"⟩)] := by
  have hlow : contribution? .default (shop 80) (edgeRules (Rule.routeRules rivalStore).1) lowRule =
      some ⟨false, "*", versionRoute "1"⟩ := by decide +kernel
  have hhigh :
      contribution? .default (shop 80) (edgeRules (Rule.routeRules rivalStore).1) highRule =
        some ⟨false, "*", versionRoute "2"⟩ := by decide +kernel
  rw [ingressRules_rivalStore]
  simp only [contributions, List.filterMap_cons, List.filterMap_nil, hlow, hhigh, Option.map_some]

theorem lowRule_contributes :
    lowRule ∈ (Rule.ingressRules (Rule.routeRules rivalStore).2).1 ∧
      Contributes .default (shop 80) (edgeRules (Rule.routeRules rivalStore).1) lowRule plainPort
        "*" (versionRoute "1") := by
  apply mem_ranking.mp
  rw [contributions_rivalStore]
  exact List.mem_mergeSort.mpr List.mem_cons_self

theorem highRule_contributes :
    highRule ∈ (Rule.ingressRules (Rule.routeRules rivalStore).2).1 ∧
      Contributes .default (shop 80) (edgeRules (Rule.routeRules rivalStore).1) highRule plainPort
        "*" (versionRoute "2") := by
  apply mem_ranking.mp
  rw [contributions_rivalStore]
  exact List.mem_mergeSort.mpr (List.mem_cons_of_mem _ List.mem_cons_self)

/-- All requests are for one virtual host, with these two routes. -/
theorem exists_host_rivalStore :
    ∃ s, (settings .default (shop 80) rivalStore gateway).1 = .ok s ∧
      ∃ config, (plainPort, config) ∈ s.routes ∧ ∃ v ∈ config.hosts, v.name = "*" ∧
        v.routes = [versionRoute "1", versionRoute "2"] := by
  obtain ⟨s, hs⟩ := settings_rivalStore
  have hroutes := routes_of_ingress_settings rfl hs
  obtain ⟨hlow, hcontributes⟩ := lowRule_contributes
  obtain ⟨config, hconfig, v, hv, hname⟩ := exists_host_of_contributes rfl hs hlow hcontributes
  refine ⟨s, hs, config, hconfig, v, hv, hname, ?_⟩
  rw [routes_of_mem_edgeTable (hroutes ▸ hconfig) hv, hname, contributions_rivalStore]
  -- one path, so that the sort leaves the routes as they are
  have hsame : ([(lowRule, versionRoute "1"), (highRule, versionRoute "2")] :
      List (IngressRule × HttpRoute)).Pairwise fun a b =>
        (a.2.path.compare b.2.path != .gt) = true := by
    decide
  exact congrArg (List.map (·.2)) (List.mergeSort_of_pairwise hsame)

/-- Both rules take all requests, and the first of them serves. -/
theorem low_rule_serves_cart :
    ∃ s, (settings .default (shop 80) rivalStore gateway).1 = .ok s ∧
      ∃ config, (plainPort, config) ∈ s.routes ∧ ∃ v ∈ config.hosts,
        ∃ r, v.routes.find? (·.takes "/cart" fun _ => false) = some r ∧
          r.IsMostSpecific v.routes "/cart" ∧
          Contributes .default (shop 80) (edgeRules (Rule.routeRules rivalStore).1) lowRule
            plainPort v.name r := by
  obtain ⟨s, hs, config, hconfig, v, hv, hname, hroutes⟩ := exists_host_rivalStore
  have hsorted := pairwise_key_rivalStore.imp Std.le_of_lt
  have hbare : ∀ r ∈ v.routes, r.headers = [] := by
    rw [hroutes]
    decide
  have htaken : ∃ q ∈ v.routes, q.takes "/cart" (fun _ => false) = true := by
    rw [hroutes]
    exact ⟨_, List.mem_cons_self, by decide⟩
  obtain ⟨r, hfind, hspecific, g, hg, hcontributes, hleast⟩ :=
    ingress_serves_most_specific rfl hs hsorted _ hconfig v hv hbare "/cart" _ htaken
  refine ⟨s, hs, config, hconfig, v, hv, r, hfind, hspecific, ?_⟩
  rw [ingressRules_rivalStore] at hg
  rcases List.mem_cons.mp hg with rfl | hg
  · exact hcontributes
  · obtain rfl := List.mem_singleton.mp hg
    obtain ⟨hlow, hlowContributes⟩ := lowRule_contributes
    rw [hcontributes.route_eq highRule_contributes.2, hname] at hleast
    exact absurd (hleast lowRule hlow _ hlowContributes rfl) (by decide)

/-! ### The order of rules -/

/-- The routes of a virtual host stand for the rules that contribute to it, once each. Of two
rules for one path the one with the smaller key comes first, whatever their precedences: the one
with the higher precedence does if and only if its key is smaller. -/
theorem ingress_rules_ranked_by_key {mesh : Mesh} {registry : ρ} {store : σ} {node : Node}
    {s : Settings} (hrole : node.role = .ingress)
    (h : (settings mesh registry store node).1 = .ok s)
    (hsorted : (Rule.ingressRules (Rule.routeRules store).2).1.Pairwise fun a b =>
      Spec.key a < Spec.key b) :
    let rules := edgeRules (Rule.routeRules store).1
    let ingressRules := (Rule.ingressRules (Rule.routeRules store).2).1
    ∀ e ∈ s.routes, ∀ v ∈ e.2.hosts, ∃ ranked : List (IngressRule × HttpRoute),
      ranked.map (·.2) = v.routes ∧ ranked.Nodup ∧
      (∀ g r, (g, r) ∈ ranked ↔
        g ∈ ingressRules ∧ Contributes mesh registry rules g e.1 v.name r) ∧
      ∀ (i j : Nat) (hi : i < ranked.length) (hj : j < ranked.length),
        ranked[i].2.path = ranked[j].2.path →
        ranked[j].1.rule.precedence < ranked[i].1.rule.precedence →
          (i < j ↔ Spec.key ranked[i].1 < Spec.key ranked[j].1) := by
  intro rules ingressRules e he v hv
  let ranked := ranking (contributions mesh registry rules ingressRules) e.1 v.name
  have hpairs : ranked.Pairwise _ := pairwise_ranking hsorted e.1 v.name
  rw [List.pairwise_iff_getElem] at hpairs
  refine ⟨ranked, ?_, nodup_ranking hsorted _ _, fun g r => mem_ranking, ?_⟩
  · exact (routes_of_mem_edgeTable (routes_of_ingress_settings hrole h ▸ he) hv).symm
  · intro i j hi hj hpath _
    constructor
    · intro hlt
      exact (hpairs i j hi hj hlt).2 hpath
    · intro hkey
      rcases Nat.lt_trichotomy i j with hlt | rfl | hgt
      · exact hlt
      · exact absurd hkey (String.lt_irrefl _)
      · exact absurd ((hpairs j i hj hi hgt).2 hpath.symm) (String.lt_asymm hkey)

/-- The rule with the higher precedence is not ranked before the other. -/
theorem high_rule_not_first :
    ∃ s, (settings .default (shop 80) rivalStore gateway).1 = .ok s ∧
      ∃ config, (plainPort, config) ∈ s.routes ∧ ∃ v ∈ config.hosts,
        ∃ ranked : List (IngressRule × HttpRoute), ranked.map (·.2) = v.routes ∧
          ∃ i j : Nat, ranked[i]? = some (highRule, versionRoute "2") ∧
            ranked[j]? = some (lowRule, versionRoute "1") ∧ ¬ i < j := by
  obtain ⟨s, hs, config, hconfig, v, hv, hname, -⟩ := exists_host_rivalStore
  obtain ⟨ranked, hroutes, -, hmem, horder⟩ :=
    ingress_rules_ranked_by_key rfl hs pairwise_key_rivalStore _ hconfig v hv
  rw [hname] at hmem
  obtain ⟨i, hi, hhigh⟩ := List.getElem_of_mem ((hmem _ _).mpr highRule_contributes)
  obtain ⟨j, hj, hlow⟩ := List.getElem_of_mem ((hmem _ _).mpr lowRule_contributes)
  refine ⟨s, hs, config, hconfig, v, hv, ranked, hroutes, i, j, ?_, ?_, ?_⟩
  · rw [List.getElem?_eq_getElem hi, hhigh]
  · rw [List.getElem?_eq_getElem hj, hlow]
  · have hiff := horder i j hi hj
    rw [hhigh, hlow] at hiff
    rw [hiff rfl (by decide)]
    decide

/-- The route of the rule with the higher precedence stands behind one for the same path. -/
theorem higher_precedence_stands_behind :
    lowRule.rule.precedence < highRule.rule.precedence ∧
      Contributes .default (shop 80) (edgeRules (Rule.routeRules rivalStore).1) lowRule plainPort
        "*" (versionRoute "1") ∧
      Contributes .default (shop 80) (edgeRules (Rule.routeRules rivalStore).1) highRule plainPort
        "*" (versionRoute "2") ∧
      (versionRoute "1").path = (versionRoute "2").path ∧ versionRoute "1" ≠ versionRoute "2" ∧
      ∃ s, (settings .default (shop 80) rivalStore gateway).1 = .ok s ∧
        ∃ config, (plainPort, config) ∈ s.routes ∧ ∃ v ∈ config.hosts, v.name = "*" ∧
          v.routes = [versionRoute "1", versionRoute "2"] :=
  ⟨by decide, lowRule_contributes.2, highRule_contributes.2, rfl, by decide +kernel,
    exists_host_rivalStore⟩

end MeshControl.Build
