import MeshControl.Discovery.Service
import MeshControl.Proofs.Build.Closure

/-!
Requests for the routes of one port. A proxy asks for those that its listeners name, and its
settings hold them.
-/
namespace MeshControl.Discovery

open Proxy Build

variable {ρ σ : Type} [Registry.Directory ρ] [Config.Store σ] {mesh : Mesh} {registry : ρ}
  {store : σ}

/-- Who asks for a port by its number is told the routes that the settings hold for it. -/
theorem respond_routes {text : String} {node : Node} (hnode : Node.ofText text = .ok node)
    {s : Settings} (hsettings : (settings mesh registry store node).1 = .ok s) {port : Nat}
    (hport : port < UInt16.size) {config : RouteConfig}
    (hconfig : s.routes.find? port = some config) :
    (respond mesh registry store (.routes (toString port) mesh.serviceCluster text)).1 =
      .ok config.json := by
  have hread : readNode mesh mesh.serviceCluster text = .ok node := by
    simp [readNode, hnode, Except.mapError]
  rw [respond, Port.numberOfText?_toString hport]
  simp [ofSettings, hread, hsettings, routesFor, hconfig, Except.map]

/-- An answer is given unless one was kept for the path before; then that one is. -/
theorem Service.response_of_ok (service : Service) {path : String} {endpoint : Endpoint}
    (hpath : Endpoint.ofPath? path = some endpoint) (hcounted : endpoint ≠ .cacheStats)
    {answer : Json} (hanswer : (respond mesh registry store endpoint).1 = .ok answer) :
    (service.handle mesh registry store "GET" path).1 =
      jsonText ((if service.caching then service.cache.responses.find? path else none).getD
        answer.pretty) := by
  have hadmission : admission "GET" path = .ok endpoint := by simp [admission, hpath]
  rw [handle, handleWhile, hadmission]
  split
  · next heq => cases heq
  · next heq => exact absurd (Except.ok.inj heq) hcounted
  · next endpoint' _ heq =>
    obtain rfl : endpoint = endpoint' := Except.ok.inj heq
    rw [lookup]
    cases if service.caching then service.cache.responses.find? path else none with
    | some body => rfl
    | none =>
      simp only [hanswer]
      rfl

/-- Settings that were built are closed, and the listeners of a sidecar are lined up. A proxy that
asks for the routes that one of its listeners names gets them, or what was kept of them. Ports
are numbers of 16 bits. -/
theorem built_settings_are_closed {node : Node} {s : Settings}
    (h : (settings mesh registry store node).1 = .ok s) :
    s.IsClosed ∧ (node.role = .sidecar → ∃ ls, Lined mesh s ls) ∧
    ∀ l ∈ s.listeners, ∀ port < UInt16.size, l.asked? = some port →
      ∃ config, s.routes.find? port = some config ∧
        ∀ (service : Service) (path text : String), Node.ofText text = .ok node →
          Endpoint.ofPath? path = some (.routes (toString port) mesh.serviceCluster text) →
          (service.handle mesh registry store "GET" path).1.status = 200 ∧
          (service.cache.responses.find? path = none →
            (service.handle mesh registry store "GET" path).1 = .json 200 config.json) := by
  refine ⟨isClosed_settings h, fun hrole => ?_, fun l hl port hport hasked => ?_⟩
  · rw [settings, hrole] at h
    simp only [sidecarSettings] at h
    split at h
    · cases h
    · exact lined_sidecar (of_refuse h)
  · obtain ⟨config, hconfig⟩ := (isClosed_settings h).asked l hl port hasked
    refine ⟨config, hconfig, fun service path text hnode hpath => ?_⟩
    have hresponse := service.response_of_ok hpath (by simp)
      (respond_routes hnode h hport hconfig)
    refine ⟨by rw [hresponse]; rfl, fun hkept => ?_⟩
    rw [hresponse, hkept, ite_self]
    rfl

def edgeNode : Node := ⟨.ingress, .v4 10 2 0 1, "gateway", "default"⟩

/-- The ingress proxy always asks for the routes of plain requests. -/
theorem exists_asks_plainPort {registry : ρ} {store : σ} {s : Settings}
    (h : (settings mesh registry store edgeNode).1 = .ok s) :
    ∃ l ∈ s.listeners, l.asked? = some plainPort := by
  have hrole : edgeNode.role = .ingress := rfl
  rw [settings, hrole] at h
  simp only [ingressSettings] at h
  split at h
  · cases h
  · obtain ⟨clusters, -, rfl⟩ := exists_of_map_eq_ok (of_refuse h)
    exact ⟨_, List.mem_map_of_mem List.mem_cons_self, asked?_insertFilters _ _ _ _⟩

theorem contested_settings_are_closed :
    (∃ s ls, (settings mutualTlsMesh (Registry.Memory.afterOperations contestedAddress)
        (Config.Memory.new Rule.catalog) (.ofSidecar (.v4 10 1 1 1))).1 = .ok s ∧
      s.IsClosed ∧ Lined mutualTlsMesh s ls) ∧
    ∃ s config, (settings mutualTlsMesh (Registry.Memory.afterOperations contestedAddress)
        (Config.Memory.new Rule.catalog) edgeNode).1 = .ok s ∧
      s.routes.find? 80 = some config ∧
      ((Service.new true).handle mutualTlsMesh (Registry.Memory.afterOperations contestedAddress)
        (Config.Memory.new Rule.catalog) "GET"
        "/v1/routes/80/istio-proxy/ingress~10.2.0.1~gateway~default").1 =
          .json 200 config.json := by
  have hsound := Registry.Memory.isSound_afterOperations contestedAddress
  have hports : Uniform (inboundPorts (Registry.Memory.afterOperations contestedAddress)
      "10.1.1.1") := by decide
  constructor
  · obtain ⟨s, hs⟩ := (settings_new_succeed_iff hsound mutualTlsMesh Rule.catalog
      (.ofSidecar (.v4 10 1 1 1))).mpr hports
    obtain ⟨hclosed, hlined, -⟩ := built_settings_are_closed hs
    obtain ⟨ls, hls⟩ := hlined rfl
    exact ⟨s, ls, hs, hclosed, hls⟩
  · obtain ⟨s, hs⟩ := (settings_new_succeed_iff hsound mutualTlsMesh Rule.catalog
      edgeNode).mpr trivial
    obtain ⟨l, hl, hasked⟩ := exists_asks_plainPort hs
    obtain ⟨-, -, hrequests⟩ := built_settings_are_closed hs
    obtain ⟨config, hconfig, hanswers⟩ := hrequests l hl plainPort (by decide) hasked
    obtain ⟨-, hanswer⟩ := hanswers (Service.new true)
      "/v1/routes/80/istio-proxy/ingress~10.2.0.1~gateway~default" edgeNode.text (by decide)
      (by decide)
    exact ⟨s, config, hs, hconfig, hanswer rfl⟩

end MeshControl.Discovery
