import MeshControl.Proofs.Build.Handover
import MeshControl.Proofs.Build.RuleAdded

/-!
Rules for others. A sidecar follows a rule if one of the instances on its address is the source
that the rule asks for, and if the destination of the rule is a service inside the mesh. Any other
rule can be taken from the store or put there, and the sidecar is told the same, or is refused for
the same reason.
-/
namespace MeshControl

/-- An entry that is erased leaves those around it as they are. -/
theorem Table.erase_of_find? {α : Type} {t : Table α} {k : String} {v : α}
    (h : t.find? k = some v) :
    ∃ before after, t.toList = before ++ (k, v) :: after ∧
      (t.erase k).toList = before ++ after := by
  obtain ⟨before, after, hsplit⟩ := List.append_of_mem ((t.mem_toList_iff k v).mpr h)
  have hsorted : (before ++ (k, v) :: after).Pairwise fun a b => a.1 < b.1 := hsplit ▸ t.sorted
  obtain ⟨-, hback, hfront⟩ := List.pairwise_append.mp hsorted
  have hbefore : ∀ e ∈ before, (e.1 != k) = true := fun e he =>
    bne_iff_ne.mpr (String.ne_of_lt (hfront e he (k, v) List.mem_cons_self))
  have hafter : ∀ e ∈ after, (e.1 != k) = true := fun e he =>
    bne_iff_ne.mpr (String.ne_of_lt ((List.pairwise_cons.mp hback).1 e he)).symm
  refine ⟨before, after, hsplit, ?_⟩
  change t.toList.filter (fun e => e.1 != k) = before ++ after
  rw [hsplit, List.filter_append, List.filter_cons_of_neg (by simp),
    List.filter_eq_self.mpr hbefore, List.filter_eq_self.mpr hafter]

namespace Rule

open Config

/-- A store lists one rule more than another, at some place, and holds the same policies. -/
structure WithRule {σ τ : Type} [Store σ] [Store τ] (rule : RouteRule) (without : σ) (store : τ) :
    Prop where
  rules : ∃ before after, (routeRules without).1 = before ++ after ∧
    (routeRules store).1 = before ++ rule :: after
  /-- Policies are looked up when the rules have been listed. -/
  policies : versionPolicy? (routeRules without).2 = versionPolicy? (routeRules store).2

variable {m : Memory} {key : String} {e : Entry} {rule : RouteRule}

theorem withRule_remove (he : m.held? routeRuleType key = some e)
    (hrule : e.content.decode? RouteRule = some rule) :
    WithRule rule (m.remove routeRuleType key) m where
  rules := by
    obtain ⟨before, after, hlist, herased⟩ := Table.erase_of_find? he
    have htype : (m.remove routeRuleType key).ofType routeRuleType =
        (m.ofType routeRuleType).erase key := by
      rw [Memory.ofType, Memory.remove, Table.find?_insert_self]
      rfl
    refine ⟨before.filterMap fun e => e.2.content.decode? RouteRule,
      after.filterMap fun e => e.2.content.decode? RouteRule, ?_, ?_⟩
    · rw [routeRules, listOf_memory, htype, herased, List.filterMap_append]
    · rw [routeRules, listOf_memory, hlist, List.filterMap_append]
      simp only [List.filterMap_cons, hrule]
  policies := by
    funext destination tags
    have hget : (m.remove routeRuleType key).get destinationPolicyType destination =
        m.get destinationPolicyType destination := by
      rw [Memory.get, Memory.held?_remove, if_neg (fun h => absurd h.1 (by decide)), Memory.get]
    change (((m.remove routeRuleType key).get destinationPolicyType destination).bind _) =
      (m.get destinationPolicyType destination).bind _
    rw [hget]

theorem withRule_delete (he : m.held? routeRuleType key = some e)
    (hrule : e.content.decode? RouteRule = some rule)
    (hok : (m.delete routeRuleType key).1 = .ok ()) :
    WithRule rule (m.delete routeRuleType key).2 m := by
  cases hwritable : (m.catalog.get? routeRuleType).any (!·.internal) with
  | false =>
    rw [Memory.delete_of_unwritable key hwritable] at hok
    cases hok
  | true =>
    rw [Memory.delete_of_writable key hwritable, he]
    exact withRule_remove he hrule

end Rule

namespace Build

open Proxy Registry Config

variable {ρ σ τ : Type} [Directory ρ] [Store σ] [Store τ] {rule : RouteRule}
  {rules rules' : List RouteRule} {mesh : Mesh} {registry : ρ} {node : Node}
  {instances : List Instance} {services : List Service}

/-! ### Rules that are not followed -/

/-- An instance is what a condition asks of the source of requests: one of the named service, if
one is named, that carries all the tags. -/
structure IsSourceOf (m : MatchCondition) (i : Instance) : Prop where
  hostname : ∀ h, m.source = some h → i.service.hostname = h
  tags : ∀ k v, m.sourceTags.get? k = some v → i.tags.get? k = some v

theorem sourceMatches_iff {m : MatchCondition} {i : Instance} :
    Rule.sourceMatches m i = true ↔ IsSourceOf m i := by
  have htags : m.sourceTags.subsetOf i.tags = true ↔
      ∀ k v, m.sourceTags.get? k = some v → i.tags.get? k = some v := by
    simp only [Tags.subsetOf, List.all_eq_true, beq_iff_eq, Prod.forall, Tags.toList,
      Table.mem_toList_iff, Tags.get?]
  rw [Rule.sourceMatches, Bool.and_eq_true, htags]
  constructor
  · rintro ⟨hsource, hcarried⟩
    refine ⟨fun h hh => ?_, hcarried⟩
    rw [hh] at hsource
    exact (beq_iff_eq.mp hsource).symm
  · rintro ⟨hhostname, hcarried⟩
    refine ⟨?_, hcarried⟩
    cases hsource : m.source with
    | none => rfl
    | some h => exact beq_iff_eq.mpr (hhostname h hsource).symm

/-- No instance on the address of the proxy is the source that the rule asks for, or no service
inside the mesh is its destination. -/
def IsForOthers (registry : ρ) (node : Node) (rule : RouteRule) : Prop :=
  (∃ m, rule.condition = some m ∧
    ∀ instances, Directory.hostInstances registry [node.address.text] = .ok instances →
      ∀ i ∈ instances, ¬ IsSourceOf m i) ∨
  ∀ services, Directory.services registry = .ok services →
    ∀ s ∈ services, s.isExternal = false → s.hostname ≠ rule.destination

theorem appliesFrom_eq_false {m : MatchCondition} (hm : rule.condition = some m)
    (h : ∀ i ∈ instances, ¬ IsSourceOf m i) : Rule.appliesFrom instances rule = false := by
  rw [Rule.appliesFrom, hm]
  exact List.any_eq_false.mpr fun i hi hmatches => h i hi (sourceMatches_iff.mp hmatches)

/-! ### Settings with and without a rule -/

/-- Routes follow the rules for the services inside the mesh only. -/
theorem outboundRoutes_congr (h : ∀ s ∈ services, s.isExternal = false →
      rules.filter (·.destination == s.hostname) = rules'.filter (·.destination == s.hostname)) :
    outboundRoutes mesh instances services rules =
      outboundRoutes mesh instances services rules' := by
  have hroutes : ∀ s ∈ services, ∀ p, routesTo? mesh rules s p = routesTo? mesh rules' s p := by
    intro s hs p
    rw [routesTo?, routesTo?]
    split
    · rfl
    · next hinside =>
      rw [destinationRoutes, destinationRoutes, h s hs (Bool.not_eq_true _ ▸ hinside)]
  have hhosts : ∀ s ∈ services, outboundHosts mesh rules (suffixOf instances) s =
      outboundHosts mesh rules' (suffixOf instances) s := by
    intro s hs
    rw [outboundHosts, outboundHosts]
    exact List.filterMap_congr fun p _ => by rw [hroutes s hs p]
  rw [outboundRoutes, outboundRoutes, List.flatMap_congr hhosts]

theorem outboundRoutes_fromSource (h : Grown rule rules rules')
    (hothers : (∃ m, rule.condition = some m ∧ ∀ i ∈ instances, ¬ IsSourceOf m i) ∨
      ∀ s ∈ services, s.isExternal = false → s.hostname ≠ rule.destination) :
    outboundRoutes mesh instances services (Rule.fromSource instances rules') =
      outboundRoutes mesh instances services (Rule.fromSource instances rules) := by
  refine outboundRoutes_congr fun s hs hinside => ?_
  rcases hothers with ⟨m, hm, hsource⟩ | hdestination
  · rw [Rule.fromSource, h.filter_of_neg (appliesFrom_eq_false hm hsource), Rule.fromSource]
  · have hgrown : Grown rule (Rule.fromSource instances rules) (Rule.fromSource instances rules') :=
      (h.filter _).byPrecedence _
    exact hgrown.filter_of_neg (beq_false_of_ne (hdestination s hs hinside).symm)

/-- A rule for others changes nothing for a sidecar, be it the settings or the error. -/
theorem settings_eq_of_isForOthers {without : σ} {store : τ} (mesh : Mesh)
    (hrole : node.role = .sidecar) (hrule : Rule.WithRule rule without store)
    (hothers : IsForOthers registry node rule) :
    (settings mesh registry store node).1 = (settings mesh registry without node).1 := by
  rw [settings, settings, hrole]
  simp only [sidecarSettings, surroundings]
  cases hinstances : Directory.hostInstances registry [node.address.text] with
  | error e => rfl
  | ok instances =>
    cases hservices : Directory.services registry with
    | error e => rfl
    | ok services =>
      have hroutes : outboundRoutes mesh instances services
            (Rule.fromSource instances (Rule.routeRules store).1) =
          outboundRoutes mesh instances services
            (Rule.fromSource instances (Rule.routeRules without).1) := by
        refine outboundRoutes_fromSource (.inr hrule.rules) ?_
        refine hothers.imp ?_ fun hdestination => hdestination services hservices
        rintro ⟨m, hm, hsource⟩
        exact ⟨m, hm, hsource instances hinstances⟩
      simp only [Except.map, sidecar, hroutes, hrule.policies]

/-! ### Two rules that a workload does not follow -/

/-- A rule for callers of the workload's own service, but of another version. -/
def forOtherVersion : Config.Message := ⟨"pilot.v1.RouteRule", .obj [
  ("destination", .str "productpage.default.local"),
  ("match", .obj [("source", .str "productpage.default.local"),
    ("sourceTags", .obj [("version", .str "v2")])]),
  ("name", .str "for-other-version")]⟩

def otherVersion : MatchCondition :=
  ⟨some "productpage.default.local", .ofList [("version", "v2")], Table.empty⟩

def forOtherVersionRule : RouteRule :=
  ⟨"for-other-version", "productpage.default.local", 0, some otherVersion, [], none, none, none,
    none⟩

/-- A rule for a service outside the mesh. -/
def forHttpbin : Config.Message := ⟨"pilot.v1.RouteRule", .obj [
  ("destination", .str "httpbin.default.local"), ("name", .str "for-httpbin")]⟩

def forHttpbinRule : RouteRule :=
  ⟨"for-httpbin", "httpbin.default.local", 0, none, [], none, none, none, none⟩

def withRulesForOthers : Config.Memory :=
  ((((Config.Memory.new Rule.catalog).post forOtherVersion).2).post forHttpbin).2

theorem instancesAt_bookshop : withHttpbin.instancesAt [bookshop.address.text] =
    [⟨⟨"10.1.1.1", 9080, ⟨"http", 9080, .http⟩⟩, productpage, Tags.empty, none, none⟩] := by
  decide +kernel

theorem isForOthers_forOtherVersion : IsForOthers withHttpbin bookshop forOtherVersionRule := by
  refine .inl ⟨otherVersion, rfl, fun instances hinstances i hi hsource => ?_⟩
  obtain rfl := Except.ok.inj hinstances
  rw [instancesAt_bookshop] at hi
  obtain rfl := List.mem_singleton.mp hi
  have hversion : Tags.empty.get? "version" = some "v2" := hsource.tags "version" "v2" rfl
  cases hversion

theorem isForOthers_forHttpbin : IsForOthers withHttpbin bookshop forHttpbinRule := by
  refine .inr fun services hservices => ?_
  have hknown : services = [httpbin, productpage] :=
    (Except.ok.inj hservices).symm.trans services_withHttpbin
  rw [hknown]
  decide

/-- Either rule can be deleted, and the workload is told the same. -/
theorem settings_eq_without_rules_for_others :
    (Rule.routeRules withRulesForOthers).1.map (·.name) = ["for-httpbin", "for-other-version"] ∧
      (settings .default withHttpbin withRulesForOthers bookshop).1 =
        (settings .default withHttpbin
          (withRulesForOthers.delete "route-rule" "for-other-version").2 bookshop).1 ∧
      (settings .default withHttpbin withRulesForOthers bookshop).1 =
        (settings .default withHttpbin
          (withRulesForOthers.delete "route-rule" "for-httpbin").2 bookshop).1 := by
  have hversion : Rule.WithRule forOtherVersionRule
      (withRulesForOthers.delete "route-rule" "for-other-version").2 withRulesForOthers :=
    Rule.withRule_delete rfl rfl rfl
  have hhttpbin : Rule.WithRule forHttpbinRule
      (withRulesForOthers.delete "route-rule" "for-httpbin").2 withRulesForOthers :=
    Rule.withRule_delete rfl rfl rfl
  exact ⟨by decide +kernel,
    settings_eq_of_isForOthers .default rfl hversion isForOthers_forOtherVersion,
    settings_eq_of_isForOthers .default rfl hhttpbin isForOthers_forHttpbin⟩

end Build

end MeshControl
