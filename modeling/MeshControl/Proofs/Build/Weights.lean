import MeshControl.Build.Destination
import MeshControl.Proofs.Rule.Verdicts

/-!
Weights from a rule to its route. Validation and translation go through the destinations of a rule
on their own, and both take a lone destination without a weight for one with all the traffic. So
the shares of a route are in range and add up to a hundred if its rule was accepted, and they
stand in the order of the clusters of the route. The sum of the validator is one of 32-bit numbers,
but as it has a verdict only where no addition overflows, an accepted rule has the sum of a hundred
in whole numbers, however many destinations it has.
-/
namespace MeshControl

namespace RouteRule

/-! ### What an accepted list weighs -/

theorem weight_in_range {w : WeightedDestination} (h : w.validate = []) :
    0 ≤ w.weight ∧ w.weight ≤ 100 := by
  unfold WeightedDestination.validate at h
  obtain ⟨-, hrange⟩ := List.append_eq_nil_iff.mp h
  simpa using hrange

theorem effectiveWeights_in_range {routes : List WeightedDestination}
    (h : ∀ w ∈ routes, w.validate = []) {n : Int} (hn : n ∈ effectiveWeights routes) :
    0 ≤ n ∧ n ≤ 100 := by
  obtain ⟨w, hw, rfl⟩ := List.mem_map.mp hn
  unfold WeightedDestination.effectiveWeight
  split
  · decide
  · exact weight_in_range (h w hw)

end RouteRule

namespace Build

open Proxy

/-! ### Shares of routes -/

/-- What the shares of a route have to do with its rule. -/
structure SharesOut (mesh : Mesh) (rule : RouteRule) (port : Port) (r : HttpRoute)
    (shares : List (String × Int)) : Prop where
  clusters : r.clusters = rule.routes.map fun w =>
    outboundCluster mesh (w.destination.getD rule.destination) port w.tags
  names : shares.map (·.1) = r.clusters.map (·.name)
  in_range : ∀ share ∈ shares, 0 ≤ share.2 ∧ share.2 ≤ 100
  total : (shares.map (·.2)).sum = 100

theorem ruleClusters_of_ne_nil (mesh : Mesh) {rule : RouteRule} (port : Port)
    (h : rule.routes ≠ []) :
    ruleClusters mesh rule port = rule.routes.map (destinationCluster mesh rule port) := by
  unfold ruleClusters
  rw [if_neg (by simpa using h)]

theorem length_ruleClusters (mesh : Mesh) (rule : RouteRule) (port : Port) :
    (ruleClusters mesh rule port).length = max 1 rule.routes.length := by
  unfold ruleClusters
  cases rule.routes with
  | nil => rfl
  | cons w ws =>
    show (List.map _ _).length = _
    rw [List.length_map, List.length_cons]
    omega

theorem forwardTo_of_one (routes : List WeightedDestination) {clusters : List Cluster}
    (h : clusters.length = 1) :
    ∃ c, clusters = [c] ∧ forwardTo routes clusters = .cluster c.name := by
  obtain ⟨c, rfl⟩ := List.length_eq_one_iff.mp h
  exact ⟨c, rfl, rfl⟩

theorem forwardTo_of_several (routes : List WeightedDestination) {clusters : List Cluster}
    (h : 2 ≤ clusters.length) :
    forwardTo routes clusters =
      .weighted ((clusters.map (·.name)).zip (routes.map (·.effectiveWeight routes.length))) := by
  unfold forwardTo
  split
  · rw [List.length_singleton] at h
    omega
  · rfl

/-- Names and weights are zipped one by one, so both stand in the order of the rule. -/
theorem sharesOut_zip {mesh : Mesh} {rule : RouteRule} {port : Port} {r : HttpRoute}
    (hvalid : rule.validate = .ok []) (hroute : ruleRoute? mesh rule port = some r)
    (hne : rule.routes ≠ []) :
    SharesOut mesh rule port r
      ((r.clusters.map (·.name)).zip (RouteRule.effectiveWeights rule.routes)) := by
  obtain ⟨path, -, rfl⟩ := Option.map_eq_some_iff.mp hroute
  have hclusters := ruleClusters_of_ne_nil mesh port hne
  have hlength : ((ruleClusters mesh rule port).map (·.name)).length =
      (RouteRule.effectiveWeights rule.routes).length := by
    rw [hclusters, RouteRule.effectiveWeights, List.length_map, List.length_map, List.length_map]
  obtain ⟨-, hroutes⟩ := RouteRule.of_validateBody (RouteRule.validateBody_of_validate hvalid)
  obtain ⟨hall, htotal⟩ := RouteRule.of_validateRoutes hroutes hne
  exact {
    clusters := hclusters
    names := List.map_fst_zip (Nat.le_of_eq hlength)
    in_range := fun share hshare =>
      RouteRule.effectiveWeights_in_range hall (List.of_mem_zip hshare).2
    total := by
      rw [List.map_snd_zip (Nat.le_of_eq hlength.symm)]
      exact RouteRule.sum_of_totalWeight htotal }

/-- The route of a rule that validation accepts has shares exactly if the rule has two destinations
or more. Each share is then in range, all of them make a hundred, and they stand for the clusters of
the route, which are those of the destinations, one by one. Otherwise the route has one cluster, and
names it. -/
theorem weights_of_accepted_rule {mesh : Mesh} {rule : RouteRule} {port : Port} {r : HttpRoute}
    (hvalid : rule.validate = .ok []) (hroute : ruleRoute? mesh rule port = some r) :
    ((∃ shares, r.forward = .weighted shares) ↔ 2 ≤ rule.routes.length) ∧
      (∀ shares, r.forward = .weighted shares → SharesOut mesh rule port r shares) ∧
      (∀ name, r.forward = .cluster name → ∃ c, r.clusters = [c] ∧ c.name = name) := by
  have hforward : r.forward = forwardTo rule.routes r.clusters ∧
      r.clusters.length = max 1 rule.routes.length := by
    obtain ⟨path, -, rfl⟩ := Option.map_eq_some_iff.mp hroute
    exact ⟨rfl, length_ruleClusters mesh rule port⟩
  obtain ⟨hforward, hlength⟩ := hforward
  by_cases hseveral : 2 ≤ rule.routes.length
  · have hne : rule.routes ≠ [] := List.ne_nil_of_length_pos (by omega)
    rw [forwardTo_of_several rule.routes (by omega)] at hforward
    refine ⟨iff_of_true ⟨_, hforward⟩ hseveral, ?_, ?_⟩
    · intro shares hshares
      obtain rfl := Forward.weighted.inj (hforward.symm.trans hshares)
      exact sharesOut_zip hvalid hroute hne
    · intro name hname
      exact Forward.noConfusion (hforward.symm.trans hname)
  · obtain ⟨c, hc, hone⟩ := forwardTo_of_one rule.routes (by omega : r.clusters.length = 1)
    rw [hone] at hforward
    refine ⟨iff_of_false ?_ hseveral, ?_, ?_⟩
    · intro ⟨shares, hshares⟩
      exact Forward.noConfusion (hforward.symm.trans hshares)
    · intro shares hshares
      exact Forward.noConfusion (hforward.symm.trans hshares)
    · intro name hname
      exact ⟨c, hc, Forward.cluster.inj (hforward.symm.trans hname)⟩

/-- Most requests stay with one version, some try the next, and another service is still without
any. -/
def canary : RouteRule :=
  { name := "canary", destination := "reviews.local", precedence := 0, condition := none
    routes := [⟨none, Tags.ofList [("version", "v1")], 90⟩,
      ⟨none, Tags.ofList [("version", "v2")], 10⟩, ⟨some "ratings.local", Tags.empty, 0⟩]
    timeout := none, retries := none, requestFault := none, connectionFault := none }

theorem weights_of_canary :
    canary.validate = .ok [] ∧
      ∃ r, ruleRoute? .default canary ⟨"http", 80, .http⟩ = some r ∧
        ((∃ shares, r.forward = .weighted shares) ↔ 2 ≤ canary.routes.length) ∧
        (∀ shares, r.forward = .weighted shares →
          SharesOut .default canary ⟨"http", 80, .http⟩ r shares) ∧
        (∀ name, r.forward = .cluster name → ∃ c, r.clusters = [c] ∧ c.name = name) := by
  have hvalid : canary.validate = .ok [] := rfl
  exact ⟨hvalid, _, rfl, weights_of_accepted_rule hvalid rfl⟩

end Build

end MeshControl
