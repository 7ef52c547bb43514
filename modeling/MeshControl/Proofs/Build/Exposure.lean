import Mathlib.Data.List.Perm.Basic
import MeshControl.Proofs.Build.Encryption
import MeshControl.Proofs.Build.RuleAdded

/-!
What the ingress proxy shows to the outside. Every ingress rule that can be followed shows the
requests it asks for, at the port and the host it asks for, and nothing else is shown. A route
rule may lend its clusters, its faults and its timeouts to a route, but not the requests that the
route takes.
-/
namespace MeshControl

namespace Entries

/-! ### Values grouped by a text -/

theorem pairwise_addKey {k : String} {keys : List String} (h : keys.Pairwise (· < ·)) :
    (addKey textLt k keys).Pairwise (· < ·) := by
  induction keys with
  | nil => exact List.pairwise_singleton _ k
  | cons k' keys ih =>
    obtain ⟨hhead, htail⟩ := List.pairwise_cons.mp h
    simp only [addKey, textLt, decide_eq_true_eq]
    split
    · next hlt =>
      refine List.pairwise_cons.mpr ⟨fun j hj => ?_, h⟩
      rcases List.mem_cons.mp hj with rfl | hj
      · exact hlt
      · exact String.lt_trans hlt (hhead j hj)
    · next hnot =>
      split
      · exact h
      · next hne =>
        refine List.pairwise_cons.mpr ⟨fun j hj => ?_, ih htail⟩
        rcases mem_addKey.mp hj with rfl | hj
        · exact text_lt_of_le_of_ne (String.not_lt.mp hnot) (Ne.symm hne)
        · exact hhead j hj

theorem pairwise_keysOf {α : Type} (l : List (String × α)) :
    (keysOf textLt l).Pairwise (· < ·) := by
  have hfold : ∀ (l : List (String × α)) (keys : List String), keys.Pairwise (· < ·) →
      (l.foldl (fun keys e => addKey textLt e.1 keys) keys).Pairwise (· < ·) := by
    intro l
    induction l with
    | nil => exact fun _ h => h
    | cons e l ih => exact fun keys h => ih _ (pairwise_addKey h)
  exact hfold l [] .nil

theorem nodup_keysOf {α : Type} (l : List (String × α)) : (keysOf textLt l).Nodup := by
  apply (pairwise_keysOf l).imp
  intro a b hlt heq
  exact String.lt_irrefl b (heq ▸ hlt)

theorem map_valuesAt {α : Type} (k : String) (l : List (String × α)) :
    (valuesAt k l).map (k, ·) = l.filter (·.1 = k) := by
  rw [valuesAt, List.map_map]
  conv_rhs => rw [← List.map_id (l.filter (·.1 = k))]
  apply List.map_congr_left
  intro e he
  have hkey : e.1 = k := by simpa using (List.mem_filter.mp he).2
  exact Prod.ext hkey.symm rfl

/-- The values of different keys, key by key, are the values of all these keys. -/
theorem perm_flatMap_filter {α : Type} {keys : List String} (hnodup : keys.Nodup)
    (l : List (String × α)) :
    (keys.flatMap fun k => l.filter (·.1 = k)).Perm (l.filter (·.1 ∈ keys)) := by
  induction keys with
  | nil => simp
  | cons k keys ih =>
    obtain ⟨hnew, hrest⟩ := List.nodup_cons.mp hnodup
    have hfirst : (l.filter (·.1 ∈ k :: keys)).filter (·.1 = k) = l.filter (·.1 = k) := by
      rw [List.filter_filter]
      apply List.filter_congr
      intro e _
      by_cases he : e.1 = k <;> simp [he]
    have hothers : (l.filter (·.1 ∈ k :: keys)).filter (fun e => !decide (e.1 = k)) =
        l.filter (·.1 ∈ keys) := by
      rw [List.filter_filter]
      apply List.filter_congr
      intro e _
      by_cases he : e.1 = k
      · simp [he, hnew]
      · simp [he]
    have hsplit := List.filter_append_perm (fun e : String × α => decide (e.1 = k))
      (l.filter (·.1 ∈ k :: keys))
    rw [hfirst, hothers] at hsplit
    exact ((ih hrest).append_left _).trans hsplit

/-- Grouping loses no value and adds none. -/
theorem perm_group {α : Type} (l : List (String × α)) :
    ((group textLt l).flatMap fun g => g.2.map (g.1, ·)).Perm l := by
  have hnodup : (keysOf textLt l).Nodup := nodup_keysOf l
  have hall : l.filter (·.1 ∈ keysOf textLt l) = l := by
    rw [List.filter_eq_self]
    intro e he
    exact decide_eq_true (mem_keysOf.mpr ⟨e.2, he⟩)
  have hperm := perm_flatMap_filter hnodup l
  rw [hall] at hperm
  simp only [group, List.flatMap_map, map_valuesAt]
  exact hperm

end Entries

namespace Proxy

/-! ### What routes show -/

/-- Requests that are shown at a port under a host: their paths, and what their headers hold. -/
structure Exposure where
  port : Nat
  host : String
  path : PathMatch
  headers : List Header
deriving DecidableEq, Inhabited

def HttpRoute.exposure (r : HttpRoute) (port : Nat) (host : String) : Exposure :=
  ⟨port, host, r.path, r.headers⟩

def VirtualHost.exposures (v : VirtualHost) (port : Nat) : List Exposure :=
  v.routes.map (·.exposure port v.name)

def RouteConfig.exposures (c : RouteConfig) (port : Nat) : List Exposure :=
  c.hosts.flatMap (·.exposures port)

def RouteTable.exposures (t : RouteTable) : List Exposure :=
  t.flatMap fun (port, c) => c.exposures port

end Proxy

namespace Build

open Proxy Registry Config

variable {ρ σ : Type} [Directory ρ] [Store σ]

/-! ### What rules show -/

/-- The conditions of a match on headers that are neither the path nor the host. -/
def plainHeaders (h : HeaderMatches) : List Header :=
  (h.toList.filter fun e => e.1 != Header.path && e.1 != Header.authority).map
    fun (name, m) => headerMatch name m

/-- The port on which a rule is served. -/
def shownOn (r : IngressRule) : Nat := if r.secret.isSome then securePort else plainPort

/-- What a rule shows of a service, if its port and its requests can be told. -/
def exposureOf? (service : Service) (r : IngressRule) : Option Exposure :=
  (shownPort? r service).bind fun _ =>
    (pathMatch? (ruleHeaders r.rule)).map fun path =>
      ⟨shownOn r, authority r.rule, path, plainHeaders (ruleHeaders r.rule)⟩

/-- What an ingress rule shows, if the registry knows its service. -/
def exposure? (registry : ρ) (r : IngressRule) : Option Exposure :=
  match Directory.service? registry r.rule.destination with
  | .ok (some service) => exposureOf? service r
  | .ok none | .error _ => none

theorem headerMatch_name (name : String) (m : TextMatch) : (headerMatch name m).name = name := by
  cases m <;> rfl

theorem otherHeaders_headerMatches (h : HeaderMatches) :
    otherHeaders (headerMatches h) = plainHeaders h := by
  have hname : ((!isAuthority ·) ∘ fun e : String × TextMatch => headerMatch e.1 e.2) =
      fun e => e.1 != Header.authority := by
    funext e
    rw [Function.comp_apply, isAuthority, headerMatch_name]
    rfl
  rw [otherHeaders, headerMatches, plainHeaders, List.filter_map, hname, List.filter_filter]
  simp only [Bool.and_comm]

/-- A route that is lent takes the requests that the ingress rule asks for, and the route of the
ingress rule itself does so too. -/
theorem exists_edgeRoute? (mesh : Mesh) (rules : List RouteRule) (service : Service)
    (port : Port) {rule : RouteRule} {path : PathMatch}
    (hpath : pathMatch? (ruleHeaders rule) = some path) :
    ∃ r, edgeRoute? mesh rules service port rule = some r ∧ r.path = path ∧
      r.headers = plainHeaders (ruleHeaders rule) := by
  simp only [edgeRoute?, hpath, Option.bind_some]
  cases hlent : ((rules.filter (·.destination == service.hostname)).filterMap
      (ruleRoute? mesh · port)).find?
      (samePredicate path (headerMatches (ruleHeaders rule)) (authority rule)) with
  | some r =>
    have hsame := List.find?_some hlent
    rw [samePredicate, Bool.and_eq_true, Bool.and_eq_true, beq_iff_eq, beq_iff_eq] at hsame
    obtain ⟨⟨hr, hheaders⟩, -⟩ := hsame
    exact ⟨_, rfl, hr, hheaders.trans (otherHeaders_headerMatches _)⟩
  | none =>
    have hexpressible : isExpressible rule = true := by
      rw [isExpressible, hpath]
      rfl
    obtain ⟨r, hr⟩ := ruleRoute?_of_expressible mesh port hexpressible
    have hown : path = r.path := Option.some.inj (hpath.symm.trans hr.path)
    refine ⟨{ r with
      headers := otherHeaders r.headers
      checked := mesh.mixerAddress.isSome }, ?_, hown.symm, ?_⟩
    · rw [hr.route]
      rfl
    · exact hr.headers ▸ otherHeaders_headerMatches (ruleHeaders rule)

theorem edgeRoute?_of_no_path (mesh : Mesh) (rules : List RouteRule) (service : Service)
    (port : Port) {rule : RouteRule} (hpath : pathMatch? (ruleHeaders rule) = none) :
    edgeRoute? mesh rules service port rule = none := by
  rw [edgeRoute?, hpath]
  rfl

def EdgeRoute.exposure (e : EdgeRoute) : Exposure :=
  e.route.exposure (if e.secure then securePort else plainPort) e.host

/-- A rule contributes a route if it shows something, and none otherwise. -/
theorem exposure_contribution? (mesh : Mesh) (registry : ρ) (rules : List RouteRule)
    (g : IngressRule) :
    (contribution? mesh registry rules g).map EdgeRoute.exposure = exposure? registry g := by
  rw [contribution?, edgeRoutesOf, exposure?]
  cases Directory.service? registry g.rule.destination with
  | error e => rfl
  | ok found =>
    cases found with
    | none => rfl
    | some service =>
      simp only [Except.map, Except.toOption, Option.bind_some, Option.head?_toList]
      cases hport : shownPort? g service with
      | none => simp only [exposureOf?, hport, Option.bind_none, Option.map_none]
      | some port =>
        cases hpath : pathMatch? (ruleHeaders g.rule) with
        | none =>
          have hnone := edgeRoute?_of_no_path mesh rules service port hpath
          simp only [exposureOf?, hport, hpath, hnone, Option.bind_some, Option.map_none]
        | some path =>
          obtain ⟨route, hroute, rfl, hheaders⟩ := exists_edgeRoute? mesh rules service port hpath
          simp only [exposureOf?, hport, hpath, hroute, Option.bind_some, Option.map_some,
            EdgeRoute.exposure, HttpRoute.exposure, hheaders, shownOn]

theorem exposures_edgeRoutes {mesh : Mesh} {registry : ρ} {rules : List RouteRule}
    {ingressRules : List IngressRule} {routes : List EdgeRoute}
    (h : edgeRoutes mesh registry rules ingressRules = .ok routes) :
    routes.map EdgeRoute.exposure = ingressRules.filterMap (exposure? registry) := by
  rw [edgeRoutes_eq_map_contributions h, contributions, List.map_map, List.map_filterMap]
  apply List.filterMap_congr
  intro g _
  rw [Option.map_map, ← exposure_contribution? mesh registry rules g]
  rfl

/-! ### From contributions to virtual hosts -/

theorem name_hosts_edgeConfig (secure : Bool) (routes : List EdgeRoute) :
    ((edgeConfig secure routes).hosts.map (·.name)).Perm
      (Entries.keysOf textLt
        ((routes.filter (·.secure == secure)).map fun e => (e.host, e.route))) := by
  refine ((List.mergeSort_perm _ _).map _).trans (.of_eq ?_)
  rw [Entries.group, List.map_map, List.map_map]
  exact List.map_id _

theorem domains_of_mem_edgeConfig {secure : Bool} {routes : List EdgeRoute} {v : VirtualHost}
    (h : v ∈ (edgeConfig secure routes).hosts) : v.domains = [v.name] := by
  obtain ⟨⟨host, group⟩, -, rfl⟩ := List.mem_map.mp (List.mem_mergeSort.mp h)
  rfl

/-- The virtual hosts of a port show what the contributions to that port show. -/
theorem exposures_edgeConfig (secure : Bool) (routes : List EdgeRoute) (port : Nat) :
    ((edgeConfig secure routes).exposures port).Perm
      ((routes.filter (·.secure == secure)).map fun e => e.route.exposure port e.host) := by
  let own := (routes.filter (·.secure == secure)).map fun e => (e.host, e.route)
  let show' (e : String × HttpRoute) : Exposure := e.2.exposure port e.1
  let toHost (g : String × List HttpRoute) : VirtualHost :=
    ⟨g.1, [g.1], HttpRoute.sortByPath g.2⟩
  have hsorted : ((edgeConfig secure routes).exposures port).Perm
      (((Entries.group textLt own).map toHost).flatMap (·.exposures port)) :=
    (List.mergeSort_perm _ _).flatMap_right _
  have hgroups : (((Entries.group textLt own).map toHost).flatMap (·.exposures port)).Perm
      (((Entries.group textLt own).flatMap fun g => g.2.map (g.1, ·)).map show') := by
    rw [List.flatMap_map, List.map_flatMap]
    refine List.Perm.flatMap_left _ fun g _ => ?_
    rw [List.map_map]
    exact (List.mergeSort_perm _ _).map _
  have hall := (Entries.perm_group own).map show'
  rw [List.map_map] at hall
  exact hsorted.trans (hgroups.trans hall)

theorem exposures_edgeTable (routes : List EdgeRoute) :
    (RouteTable.exposures (edgeTable routes)).Perm (routes.map EdgeRoute.exposure) := by
  have hport : ∀ secure, (routes.filter (·.secure == secure)).map EdgeRoute.exposure =
      (routes.filter (·.secure == secure)).map fun e =>
        e.route.exposure (if secure then securePort else plainPort) e.host := by
    intro secure
    apply List.map_congr_left
    intro e he
    have hsecure : e.secure = secure := by simpa using (List.mem_filter.mp he).2
    rw [EdgeRoute.exposure, hsecure]
  have hplain := exposures_edgeConfig false routes plainPort
  have hsecure := exposures_edgeConfig true routes securePort
  have htable : RouteTable.exposures (edgeTable routes) =
      (edgeConfig false routes).exposures plainPort ++
        (edgeConfig true routes).exposures securePort := by
    simp only [RouteTable.exposures, edgeTable, List.flatMap_cons, List.flatMap_nil,
      List.append_nil]
  have hsplit : (routes.filter (·.secure == false) ++ routes.filter (·.secure == true)).Perm
      routes := by
    have hparts := List.filter_append_perm (·.secure == false) routes
    have hother : routes.filter (fun e => !(e.secure == false)) =
        routes.filter (·.secure == true) := by
      apply List.filter_congr
      intro e _
      cases e.secure <;> rfl
    rwa [hother] at hparts
  rw [htable]
  have hall := hsplit.map EdgeRoute.exposure
  rw [List.map_append, hport, hport] at hall
  exact (hplain.append hsecure).trans hall

/-! ### Listeners -/

theorem exists_mem_hosts_edgeConfig {secure : Bool} {routes : List EdgeRoute} :
    (∃ v, v ∈ (edgeConfig secure routes).hosts) ↔ ∃ e ∈ routes, e.secure = secure := by
  have hnames := name_hosts_edgeConfig secure routes
  constructor
  · rintro ⟨v, hv⟩
    have hname : v.name ∈ Entries.keysOf textLt _ :=
      hnames.mem_iff.mp (List.mem_map_of_mem hv)
    obtain ⟨r, hr⟩ := Entries.mem_keysOf.mp hname
    obtain ⟨e, he, -⟩ := List.mem_map.mp hr
    exact ⟨e, (List.mem_filter.mp he).1, by simpa using (List.mem_filter.mp he).2⟩
  · rintro ⟨e, he, hsecure⟩
    have hown : (e.host, e.route) ∈
        (routes.filter (·.secure == secure)).map fun e => (e.host, e.route) :=
      List.mem_map.mpr ⟨e, List.mem_filter.mpr ⟨he, beq_iff_eq.mpr hsecure⟩, rfl⟩
    have hname := hnames.mem_iff.mpr (Entries.mem_keysOf.mpr ⟨e.route, hown⟩)
    obtain ⟨v, hv, -⟩ := List.mem_map.mp hname
    exact ⟨v, hv⟩

theorem address_edgeListener (mesh : Mesh) (port : Nat) :
    (edgeListener mesh port).address = Listener.addressOf wildcard port := rfl

/-- The port for encrypted requests is listened on if something is shown there. -/
theorem exists_secure_listener_iff (mesh : Mesh) {routes : List EdgeRoute} :
    (∃ l ∈ edgeListeners mesh (edgeTable routes),
        l.address = Listener.addressOf wildcard securePort) ↔ ∃ e ∈ routes, e.secure = true := by
  have hserved : (RouteTable.find? (edgeTable routes) securePort).any (fun c => !c.hosts.isEmpty) =
      !(edgeConfig true routes).hosts.isEmpty := rfl
  have hplain : (edgeListener mesh plainPort).address ≠
      Listener.addressOf wildcard securePort := by
    rw [address_edgeListener]
    decide
  rw [← exists_mem_hosts_edgeConfig, edgeListeners, hserved]
  cases hhosts : (edgeConfig true routes).hosts with
  | nil => simp [hplain]
  | cons v hosts =>
    refine iff_of_true ⟨{ edgeListener mesh securePort with tls := some edgeTls }, ?_, rfl⟩
      ⟨v, List.mem_cons_self⟩
    exact List.mem_cons_of_mem _ List.mem_cons_self

/-- The ingress proxy shows what its rules ask for: each rule whose service and port are there and
whose requests can be expressed has one route, at the port and the host it names, that takes the
requests it asks for, and there is no other route. Encrypted requests are listened for if and
only if some rule asks for them. -/
theorem ingress_shows_rules {mesh : Mesh} {registry : ρ} {store : σ} {node : Node} {s : Settings}
    (hrole : node.role = .ingress) (h : (settings mesh registry store node).1 = .ok s) :
    let rules := (Rule.ingressRules (Rule.routeRules store).2).1
    let shown := rules.filterMap (exposure? registry)
    s.routes.ports = [plainPort, securePort] ∧
      (RouteTable.exposures s.routes).Perm shown ∧
      (∀ e ∈ s.routes, (e.2.hosts.map (·.name)).Nodup ∧ ∀ v ∈ e.2.hosts, v.domains = [v.name]) ∧
      ((∃ l ∈ s.listeners, l.address = Listener.addressOf wildcard securePort) ↔
        ∃ x ∈ shown, x.port = securePort) := by
  intro rules shown
  simp only [settings, hrole, ingressSettings] at h
  split at h
  · cases h
  · next routes hroutes =>
    obtain ⟨clusters, -, rfl⟩ := exists_of_map_eq_ok (of_refuse h)
    have hshown : routes.map EdgeRoute.exposure = shown := exposures_edgeRoutes hroutes
    refine ⟨rfl, hshown ▸ exposures_edgeTable routes, ?_, ?_⟩
    · have hhosts : ∀ secure, ((edgeConfig secure routes).hosts.map (·.name)).Nodup ∧
          ∀ v ∈ (edgeConfig secure routes).hosts, v.domains = [v.name] := fun secure =>
        ⟨(name_hosts_edgeConfig secure routes).nodup_iff.mpr (Entries.nodup_keysOf _),
          fun _ hv => domains_of_mem_edgeConfig hv⟩
      intro e he
      rcases List.mem_cons.mp he with rfl | he
      · exact hhosts false
      · obtain rfl := List.mem_singleton.mp he
        exact hhosts true
    · have hlisteners : (∃ l ∈ (edgeListeners mesh (edgeTable routes)).map
            (insertFilters mesh node (edgeTable routes)),
            l.address = Listener.addressOf wildcard securePort) ↔
          ∃ l ∈ edgeListeners mesh (edgeTable routes),
            l.address = Listener.addressOf wildcard securePort := by
        simp only [List.mem_map, exists_exists_and_eq_and, address_insertFilters]
      have hport : ∀ e : EdgeRoute, e.exposure.port = securePort ↔ e.secure = true := by
        intro e
        simp only [EdgeRoute.exposure, HttpRoute.exposure]
        cases e.secure with
        | false => decide
        | true => decide
      have hsome : (∃ x ∈ shown, x.port = securePort) ↔ ∃ e ∈ routes, e.secure = true := by
        rw [← hshown]
        simp only [List.mem_map, exists_exists_and_eq_and, hport]
      rw [hsome, ← exists_secure_listener_iff mesh]
      exact hlisteners

/-! ### Two shown services -/

def ingressRule (fields : List (String × Json)) : Config.Call :=
  .post ⟨"pilot.v1.IngressRule", .obj fields⟩

/-- A route rule for the interface of a service; a rule that shows the interface at one host, one
that shows all of another service encrypted, and two that cannot be followed. -/
def shownCalls : List Config.Call := [
  .post ⟨"pilot.v1.RouteRule", .obj [
    ("destination", .str "reviews.local"),
    ("match", .obj [("httpHeaders", .obj [("uri", .obj [("prefix", .str "/api")])])]),
    ("name", .str "lender"),
    ("route", .arr [.obj [("tags", .obj [("version", .str "2")]), ("weight", .int 100)]])]⟩,
  ingressRule [
    ("destination", .str "reviews.local"), ("destinationServicePort", .int 80),
    ("match", .obj [("httpHeaders", .obj [
      ("authority", .obj [("exact", .str "shop.example")]),
      ("uri", .obj [("prefix", .str "/api")])])]),
    ("name", .str "interface")],
  ingressRule [
    ("destination", .str "gone.local"), ("destinationServicePort", .int 80),
    ("name", .str "lost")],
  ingressRule [
    ("destination", .str "ratings.local"), ("destinationServicePortName", .str "http"),
    ("name", .str "ratings"), ("tlsSecret", .str "certs")],
  ingressRule [
    ("destination", .str "reviews.local"), ("destinationServicePort", .int 80),
    ("match", .obj [("httpHeaders", .obj [("uri", .obj [("regex", .str "/.*")])])]),
    ("name", .str "unspeakable")]]

def shownStore : Config.Memory := Config.afterCalls (Config.Memory.new Rule.catalog) shownCalls

def gateway : Node := ⟨.ingress, .v4 10 2 0 1, "gateway", "default"⟩

theorem shownCalls_show :
    (Rule.ingressRules (Rule.routeRules shownStore).2).1.filterMap (exposure? (shop 80)) =
      [⟨80, "shop.example", .startingWith "/api", []⟩, ⟨443, "*", .startingWith "/", []⟩] := by
  decide +kernel

theorem settings_shownStore : ∃ s, (settings default (shop 80) shownStore gateway).1 = .ok s := by
  have hsound : (shop 80).IsSound := Registry.Memory.isSound_afterOperations _
  have hchecked : StoreChecked shownStore := storeChecked_of_accepted rfl
    (Config.Memory.allAccepted_afterCalls Rule.catalog shownCalls)
  apply (settings_succeed_iff hsound default hchecked gateway).mpr
  refine ⟨?_, nofun, trivial⟩
  decide +kernel

theorem ingress_shows_two_services :
    ∃ s, (settings default (shop 80) shownStore gateway).1 = .ok s ∧
      (RouteTable.exposures s.routes).Perm
        [⟨80, "shop.example", .startingWith "/api", []⟩, ⟨443, "*", .startingWith "/", []⟩] ∧
      ∃ l ∈ s.listeners, l.address = "tcp://0.0.0.0:443" := by
  obtain ⟨s, hs⟩ := settings_shownStore
  obtain ⟨-, hroutes, -, hlistener⟩ := ingress_shows_rules rfl hs
  rw [shownCalls_show] at hroutes hlistener
  exact ⟨s, hs, hroutes, hlistener.mpr ⟨_, List.mem_cons_of_mem _ List.mem_cons_self, rfl⟩⟩

end Build

end MeshControl
