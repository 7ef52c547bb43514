import MeshControl.Proofs.Build.Targets
import MeshControl.Proofs.Rule.Precedence

/-!
Which route serves a request. A proxy takes the first route that matches, and the routes to a
destination are cut behind the first that takes every request; so a request is served by the
first rule, in the order of precedence, that can be expressed and matches it, and by the default
route if there is none.
-/
namespace MeshControl

namespace Proxy

/-- What a proxy looks at when it picks a route: the path of a request, which starts with a
slash, and the conditions on headers that the request meets, however those are read. -/
structure Request where
  path : String
  meets : Header → Bool
  rooted : Text.startsWith '/' path = true

/-- Whether a path is the one asked for, or starts with the text asked for. -/
def PathMatch.covers : PathMatch → String → Bool
  | exactly p, path => path == p
  | startingWith p, path => p.toList.isPrefixOf path.toList

def HttpRoute.serves (r : HttpRoute) (q : Request) : Bool :=
  r.path.covers q.path && r.headers.all q.meets

theorem PathMatch.covers_any (q : Request) : any.covers q.path = true := by
  have hrooted := q.rooted
  rw [Text.startsWith, decide_eq_true_eq] at hrooted
  obtain ⟨rest, hpath⟩ := List.head?_eq_some_iff.mp hrooted
  rw [any, covers, hpath]
  rfl

theorem HttpRoute.serves_of_isCatchAll {r : HttpRoute} (h : r.isCatchAll = true) (q : Request) :
    r.serves q = true := by
  rw [isCatchAll, Bool.and_eq_true, List.isEmpty_iff, beq_iff_eq] at h
  obtain ⟨hheaders, hpath⟩ := h
  rw [serves, hpath, hheaders, PathMatch.covers_any]
  rfl

theorem HttpRoute.isCatchAll_toCluster (c : Cluster) : (toCluster c).isCatchAll = true := by
  simp [toCluster, isCatchAll]

end Proxy

namespace Build

open Proxy

/-! ### Routes up to the first that takes every request -/

theorem untilCatchAll_eq_append_singleton {fallback : HttpRoute}
    (hfallback : fallback.isCatchAll = true) (routes : List HttpRoute) :
    ∃ front last, untilCatchAll fallback routes = front ++ [last] ∧ last.isCatchAll = true ∧
      ∀ r ∈ front, r.isCatchAll = false := by
  induction routes with
  | nil => exact ⟨[], fallback, rfl, hfallback, by simp⟩
  | cons r routes ih =>
    rw [untilCatchAll]
    cases hr : r.isCatchAll with
    | true => exact ⟨[], r, rfl, hr, by simp⟩
    | false =>
      obtain ⟨front, last, hroutes, hlast, hfront⟩ := ih
      refine ⟨r :: front, last, by simp [hroutes], hlast, ?_⟩
      intro r' hr'
      rcases List.mem_cons.mp hr' with rfl | hr'
      · exact hr
      · exact hfront r' hr'

/-- The cut does not show: what is cut off stands behind a route that serves every request. -/
theorem find?_untilCatchAll {fallback : HttpRoute} (hfallback : fallback.isCatchAll = true)
    (routes : List HttpRoute) (q : Request) :
    (untilCatchAll fallback routes).find? (·.serves q) =
      some ((routes.find? (·.serves q)).getD fallback) := by
  induction routes with
  | nil =>
    have hserves : fallback.serves q = true := HttpRoute.serves_of_isCatchAll hfallback q
    simp [untilCatchAll, hserves]
  | cons r routes ih =>
    rw [untilCatchAll]
    cases hr : r.isCatchAll with
    | true =>
      have hserves : r.serves q = true := HttpRoute.serves_of_isCatchAll hr q
      simp [hserves]
    | false =>
      cases hserves : r.serves q with
      | true => simp [hserves]
      | false => simpa [hserves] using ih

/-! ### Rules -/

/-- Whether a rule is one for a request: its condition on the path can be expressed and covers the
path of the request, and the request meets all its conditions on other headers. -/
def ruleServes (q : Request) (rule : RouteRule) : Bool :=
  (pathMatch? (ruleHeaders rule)).any fun path =>
    path.covers q.path && (headerMatches (ruleHeaders rule)).all q.meets

/-- The route of a rule serves the requests that the rule is for. -/
theorem any_serves_ruleRoute? (mesh : Mesh) (port : Port) (q : Request) (rule : RouteRule) :
    (ruleRoute? mesh rule port).any (·.serves q) = ruleServes q rule := by
  unfold ruleServes
  rcases ruleRoute?_cases mesh port rule with ⟨hpath, hroute⟩ | ⟨r, hr⟩
  · rw [hpath, hroute]
    rfl
  · rw [hr.route, hr.path, ← hr.headers]
    rfl

theorem find?_filterMap_eq_bind_ruleServes (mesh : Mesh) (port : Port) (q : Request)
    (rules : List RouteRule) :
    (rules.filterMap (ruleRoute? mesh · port)).find? (·.serves q) =
      (rules.find? (ruleServes q)).bind (ruleRoute? mesh · port) := by
  rw [List.find?_filterMap]
  simp only [any_serves_ruleRoute?]

/-- The first of the routes to a destination that serves a request is the route of the first rule
that does, or the default route. -/
theorem find?_destinationRoutes (mesh : Mesh) (service : Service) (port : Port)
    (rules : List RouteRule) (q : Request) :
    (destinationRoutes mesh service port rules).find? (·.serves q) =
      match (rules.filter (·.destination == service.hostname)).find? (ruleServes q) with
      | some rule => ruleRoute? mesh rule port
      | none => some (defaultRoute mesh service port) := by
  have hdefault : (defaultRoute mesh service port).isCatchAll = true :=
    HttpRoute.isCatchAll_toCluster _
  rw [destinationRoutes, find?_untilCatchAll hdefault, find?_filterMap_eq_bind_ruleServes]
  cases hrule : (rules.filter (·.destination == service.hostname)).find? (ruleServes q) with
  | none => rfl
  | some rule =>
    have hserves : ruleServes q rule = true := List.find?_some hrule
    rw [← any_serves_ruleRoute? mesh port] at hserves
    obtain ⟨route, hroute, -⟩ := (Option.any_eq_true _ _).mp hserves
    simp [hroute]

/-- Requests to a port of a service follow the rules of a store. The rules that apply to the
callers come by falling precedence and then by key; a request is served by the route of the first
of them that is one for it, or by the default route; and the last route is the only one that takes
every request. A rule whose condition on the path cannot be expressed has no route, and that of any
other has its conditions and leads to its destinations. -/
theorem destinationRoutes_follow_rules (mesh : Mesh) (calls : List Config.Call)
    (instances : List Instance) (service : Service) (port : Port) :
    let store := Config.afterCalls (Config.Memory.new Rule.catalog) calls
    let selected := Rule.fromSource instances (Rule.routeRules store).1
    let own := selected.filter (·.destination == service.hostname)
    let routes := destinationRoutes mesh service port selected
    own.Pairwise Rule.Precedes ∧
      (∀ rule ∈ own, ∃ e, store.held? Rule.routeRuleType (Config.Spec.key rule) = some e ∧
        e.content.decode? RouteRule = some rule) ∧
      (∀ q : Request, routes.find? (·.serves q) =
        match own.find? (ruleServes q) with
        | some rule => ruleRoute? mesh rule port
        | none => some (defaultRoute mesh service port)) ∧
      (∀ rule : RouteRule,
        pathMatch? (ruleHeaders rule) = none ∧ ruleRoute? mesh rule port = none ∨
          ∃ r, Expresses mesh port rule r) ∧
      ∃ front last, routes = front ++ [last] ∧ last.isCatchAll = true ∧
        ∀ r ∈ front, r.isCatchAll = false := by
  intro store selected own routes
  have hcatalog : store.catalog = Rule.catalog :=
    Config.Memory.catalog_afterCalls (Config.Memory.new Rule.catalog) calls
  have haccepted : store.AllAccepted := Config.Memory.allAccepted_afterCalls Rule.catalog calls
  have hdefault : (defaultRoute mesh service port).isCatchAll = true :=
    HttpRoute.isCatchAll_toCluster _
  refine ⟨?_, ?_, find?_destinationRoutes mesh service port selected,
    ruleRoute?_cases mesh port, ?_⟩
  · exact (Rule.pairwise_precedes_fromSource hcatalog haccepted instances).filter _
  · intro rule hrule
    exact Rule.held?_of_mem_fromSource hcatalog haccepted (List.mem_of_mem_filter hrule)
  · exact untilCatchAll_eq_append_singleton hdefault _

/-! ### Testers and everyone else -/

def http : Port := ⟨"http", 80, .http⟩

def reviews : Service := ⟨"reviews.local", none, [http], none⟩

/-- Sends all requests to one version. -/
def everyone : RouteRule :=
  { name := "a-everyone", destination := "reviews.local", precedence := 0, condition := none
    routes := [⟨none, Tags.ofList [("version", "v1")], 100⟩]
    timeout := none, retries := none, requestFault := none, connectionFault := none }

/-- Sends the requests with a header to another version, before the rule for all others. -/
def testers : RouteRule :=
  { name := "b-testers", destination := "reviews.local", precedence := 1
    condition := some ⟨none, Tags.empty, Table.ofList [("x-tester", .exactly "yes")]⟩
    routes := [⟨none, Tags.ofList [("version", "v2")], 100⟩]
    timeout := none, retries := none, requestFault := none, connectionFault := none }

/-- Creates both rules. -/
def testing : List Config.Call :=
  [.post (Config.Message.encode everyone), .post (Config.Message.encode testers)]

/-- An instance that calls the service. -/
def visitor : Instance := ⟨⟨"10.1.1.1", 80, http⟩, reviews, Tags.empty, none, none⟩

/-- A request without headers. -/
def bareRequest : Request := ⟨"/", fun _ => false, by decide⟩

/-- A request with the header of testers. -/
def testerRequest : Request := ⟨"/", fun h => h.name == "x-tester" && h.value == "yes", by decide⟩

theorem fromSource_testing :
    Rule.fromSource [visitor] (Rule.routeRules
      (Config.afterCalls (Config.Memory.new Rule.catalog) testing)).1 = [testers, everyone] := by
  change Rule.byPrecedence RouteRule.precedence [everyone, testers] = [testers, everyone]
  simp [Rule.byPrecedence, List.mergeSort, everyone, testers]

/-- The request with the header is sent by the rule for testers, the other by the rule for
everyone. -/
theorem testers_come_first :
    let rules := Rule.fromSource [visitor] (Rule.routeRules
      (Config.afterCalls (Config.Memory.new Rule.catalog) testing)).1
    (destinationRoutes .default reviews http rules).find? (·.serves testerRequest) =
        ruleRoute? .default testers http ∧
      (destinationRoutes .default reviews http rules).find? (·.serves bareRequest) =
        ruleRoute? .default everyone http := by
  obtain ⟨-, -, hfirst, -⟩ :=
    destinationRoutes_follow_rules .default testing [visitor] reviews http
  rw [fromSource_testing] at hfirst ⊢
  exact ⟨hfirst testerRequest, hfirst bareRequest⟩

end Build

end MeshControl
