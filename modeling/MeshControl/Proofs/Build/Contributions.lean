import MeshControl.Build.Settings

/-!
What ingress rules contribute to the routes of the ingress proxy. A rule that can be followed
contributes one route, and any other rule none; all routes are these, in the order of the rules.
-/
namespace MeshControl.Build

open Proxy Registry

variable {ρ : Type} [Directory ρ]

/-- The route that an ingress rule contributes, if it can be followed. -/
def contribution? (mesh : Mesh) (registry : ρ) (rules : List RouteRule) (g : IngressRule) :
    Option EdgeRoute :=
  (edgeRoutesOf mesh registry rules g).toOption.bind (·.head?)

/-- The routes that ingress rules contribute, each with its rule. -/
def contributions (mesh : Mesh) (registry : ρ) (rules : List RouteRule)
    (ingressRules : List IngressRule) : List (IngressRule × EdgeRoute) :=
  ingressRules.filterMap fun g => (contribution? mesh registry rules g).map fun e => (g, e)

variable {mesh : Mesh} {registry : ρ} {rules : List RouteRule} {ingressRules : List IngressRule}
  {g : IngressRule} {e : EdgeRoute} {routes : List EdgeRoute}

theorem edgeRoutesOf_eq_toList (h : edgeRoutesOf mesh registry rules g = .ok routes) :
    routes = (contribution? mesh registry rules g).toList := by
  rw [contribution?, h]
  obtain ⟨service, -, rfl⟩ := exists_of_map_eq_ok h
  simp only [Except.toOption, Option.bind_some, Option.head?_toList]

theorem edgeRoutes_eq_map_contributions
    (h : edgeRoutes mesh registry rules ingressRules = .ok routes) :
    routes = (contributions mesh registry rules ingressRules).map (·.2) := by
  induction ingressRules generalizing routes with
  | nil => exact (Except.ok.inj h).symm
  | cons g ingressRules ih =>
    rw [edgeRoutes] at h
    split at h
    · cases h
    · next first hfirst =>
      obtain ⟨rest, hrest, rfl⟩ := exists_of_map_eq_ok h
      rw [edgeRoutesOf_eq_toList hfirst, ih hrest, contributions, contributions,
        List.filterMap_cons]
      cases contribution? mesh registry rules g <;> rfl

theorem mem_contributions :
    (g, e) ∈ contributions mesh registry rules ingressRules ↔
      g ∈ ingressRules ∧ contribution? mesh registry rules g = some e := by
  simp only [contributions, List.mem_filterMap, Option.map_eq_some_iff, Prod.mk.injEq]
  constructor
  · rintro ⟨g', hg, e', he, rfl, rfl⟩
    exact ⟨hg, he⟩
  · rintro ⟨hg, he⟩
    exact ⟨g, hg, e, he, rfl, rfl⟩

/-- Contributions come in the order of their rules. -/
theorem pairwise_contributions {R : IngressRule → IngressRule → Prop}
    (h : ingressRules.Pairwise R) :
    (contributions mesh registry rules ingressRules).Pairwise fun a b => R a.1 b.1 := by
  apply List.pairwise_filterMap.mpr
  apply h.imp
  intro g g' hR c hc c' hc'
  obtain ⟨e, -, rfl⟩ := Option.map_eq_some_iff.mp hc
  obtain ⟨e', -, rfl⟩ := Option.map_eq_some_iff.mp hc'
  exact hR

/-- What a rule contributes is its route to the port that it shows of its service. -/
theorem exists_edgeRoute?_of_contribution? (h : contribution? mesh registry rules g = some e) :
    ∃ service port route, shownPort? g service = some port ∧
      edgeRoute? mesh rules service port g.rule = some route ∧
      e = ⟨g.secret.isSome, authority g.rule, route⟩ := by
  obtain ⟨routes, hroutes, hfirst⟩ := Option.bind_eq_some_iff.mp h
  cases hfound : Directory.service? registry g.rule.destination with
  | error err =>
    rw [edgeRoutesOf, hfound] at hroutes
    cases hroutes
  | ok service =>
    rw [edgeRoutesOf, hfound] at hroutes
    obtain rfl := Option.some.inj hroutes
    rw [Option.head?_toList] at hfirst
    obtain ⟨s, -, hs⟩ := Option.bind_eq_some_iff.mp hfirst
    obtain ⟨p, hp, hmap⟩ := Option.bind_eq_some_iff.mp hs
    obtain ⟨route, hroute, rfl⟩ := Option.map_eq_some_iff.mp hmap
    exact ⟨s, p, route, hp, hroute, rfl⟩

/-- All routes of the ingress proxy are routes of its rules to the ports they show. -/
theorem exists_edgeRoute?_of_mem_edgeRoutes
    (h : edgeRoutes mesh registry rules ingressRules = .ok routes) (he : e ∈ routes) :
    ∃ g ∈ ingressRules, ∃ service port, edgeRoute? mesh rules service port g.rule =
      some e.route := by
  rw [edgeRoutes_eq_map_contributions h] at he
  obtain ⟨⟨g, e⟩, hmem, rfl⟩ := List.mem_map.mp he
  obtain ⟨hg, hcontribution⟩ := mem_contributions.mp hmem
  obtain ⟨service, port, route, -, hroute, rfl⟩ :=
    exists_edgeRoute?_of_contribution? hcontribution
  exact ⟨g, hg, service, port, hroute⟩

end MeshControl.Build
