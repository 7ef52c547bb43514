import MeshControl.ControlPlane
import MeshControl.Proofs.Build.Unsigned
import MeshControl.Proofs.Config.Mirror
import MeshControl.Proofs.Discovery.Coherence
import MeshControl.Proofs.Registry.Operations

/-!
What an answer depends on. Of a running controller it reads what is seen of the watched types, where
no sign shows. Of the management ports of a registry it reads those at the address of the sidecar
that asks, and other requests read none.
-/
namespace MeshControl

open Config Registry

/-! ### Rules and policies that are seen -/

namespace Rule

variable {α σ : Type} [Spec α] [Store σ] {f g : Front σ}

theorem map_decode?_plain {view : α → α}
    (hblind : Decode.Blind view (Spec.decode : Json → Decoded α)) (r : Record) :
    (r.plain.content.decode? α).map view = (r.content.decode? α).map view := by
  have hread := hblind r.content.value
  rw [Message.decode?, Message.decode?, Message.decode, Message.decode, Record.plain]
  split
  · cases hplain : (Spec.decode r.content.value.plain : Decoded α) with
    | error e =>
      cases hvalue : (Spec.decode r.content.value : Decoded α) with
      | error e' => rfl
      | ok a => rw [hplain, hvalue] at hread; cases hread
    | ok a =>
      cases hvalue : (Spec.decode r.content.value : Decoded α) with
      | error e' => rw [hplain, hvalue] at hread; cases hread
      | ok a' =>
        rw [hplain, hvalue] at hread
        exact congrArg some (Except.ok.inj hread)
  · rfl

/-- A running controller lists its snapshot. -/
theorem listOf_front (hlive : f.live = true) (type : String) :
    listOf α type f =
      ((f.controller.known type).filterMap fun r => r.content.decode? α, f) := by
  have hlist : Store.list f type = (.ok (f.controller.known type), f) := if_pos hlive
  rw [listOf, hlist]

theorem store_routeRules (hlive : f.live = true) : (routeRules f).2 = f :=
  congrArg Prod.snd (listOf_front hlive routeRuleType)

theorem store_ingressRules (hlive : f.live = true) : (ingressRules f).2 = f :=
  congrArg Prod.snd (listOf_front hlive ingressRuleType)

theorem map_listOf {view : α → α} (hblind : Decode.Blind view (Spec.decode : Json → Decoded α))
    (hlive : f.live = true) (type : String) :
    (listOf α type f).1.map view =
      (f.controller.seen type).filterMap fun r => (r.content.decode? α).map view := by
  rw [listOf_front hlive, List.map_filterMap, Controller.seen, List.filterMap_map]
  simp only [Function.comp_def, map_decode?_plain hblind]

theorem version?_plain (p : DestinationPolicy) (tags : Tags) :
    p.plain.version? tags = (p.version? tags).map VersionPolicy.plain :=
  List.find?_map ..

theorem plainPolicy_versionPolicy? (hlive : f.live = true) :
    Build.plainPolicy (versionPolicy? f) = fun destination tags =>
      (Controller.search (f.controller.seen destinationPolicyType) destination).bind fun r =>
        ((r.content.decode? DestinationPolicy).map DestinationPolicy.plain).bind
          (·.version? tags) := by
  funext destination tags
  have hget : Store.get f destinationPolicyType destination =
      (Controller.search (f.controller.known destinationPolicyType) destination).map
        fun r => (r.content, r.revision) := if_pos hlive
  rw [Controller.seen, Controller.search_map_plain, Option.bind_map]
  simp only [Build.plainPolicy, versionPolicy?, hget, Function.comp_def,
    map_decode?_plain DestinationPolicy.blind_decode]
  cases Controller.search (f.controller.known destinationPolicyType) destination with
  | none => rfl
  | some r =>
    cases hdecode : r.content.decode? DestinationPolicy with
    | none => simp [hdecode]
    | some p => simp [hdecode, version?_plain]

end Rule

/-! ### Settings -/

namespace Build

open Proxy

variable {ρ σ : Type} [Directory ρ] [Store σ] {f g : Front σ}

/-- Two running controllers that look the same to whoever builds settings. -/
structure LooksLike (f g : Front σ) : Prop where
  left : f.live = true
  right : g.live = true
  seen : ∀ type ∈ ControlPlane.watchedTypes, f.controller.seen type = g.controller.seen type

theorem LooksLike.routeRules (h : LooksLike f g) :
    (Rule.routeRules f).1.map RouteRule.plain = (Rule.routeRules g).1.map RouteRule.plain := by
  rw [Rule.routeRules, Rule.routeRules, Rule.map_listOf RouteRule.blind_decode h.left,
    Rule.map_listOf RouteRule.blind_decode h.right, h.seen _ (by decide)]

theorem LooksLike.ingressRules (h : LooksLike f g) :
    (Rule.ingressRules f).1.map IngressRule.plain =
      (Rule.ingressRules g).1.map IngressRule.plain := by
  rw [Rule.ingressRules, Rule.ingressRules, Rule.map_listOf IngressRule.blind_decode h.left,
    Rule.map_listOf IngressRule.blind_decode h.right, h.seen _ (by decide)]

theorem LooksLike.policy (h : LooksLike f g) :
    plainPolicy (Rule.versionPolicy? f) = plainPolicy (Rule.versionPolicy? g) := by
  rw [Rule.plainPolicy_versionPolicy? h.left, Rule.plainPolicy_versionPolicy? h.right,
    h.seen _ (by decide)]

/-- Building settings leaves a running controller as it was. -/
theorem settings_front (mesh : Mesh) (registry : ρ) (hlive : f.live = true) (node : Node) :
    (settings mesh registry f node).2 = f := by
  rw [settings]
  cases node.role with
  | sidecar =>
    simp only [sidecarSettings]
    cases surroundings registry node with
    | error e => rfl
    | ok found => exact Rule.store_routeRules hlive
  | ingress =>
    simp only [ingressSettings, Rule.store_routeRules hlive, Rule.store_ingressRules hlive]
    split <;> rfl
  | egress =>
    simp only [egressSettings]
    split <;> rfl

theorem LooksLike.sidecarSettings (h : LooksLike f g) (mesh : Mesh) (registry : ρ) (node : Node) :
    (sidecarSettings mesh registry f node).1 = (sidecarSettings mesh registry g node).1 := by
  rw [Build.sidecarSettings, Build.sidecarSettings]
  cases surroundings registry node with
  | error e => rfl
  | ok found =>
    obtain ⟨instances, services⟩ := found
    have hsame : sidecar mesh registry (Rule.versionPolicy? f) node instances services
          (Rule.fromSource instances (Rule.routeRules f).1) =
        sidecar mesh registry (Rule.versionPolicy? g) node instances services
          (Rule.fromSource instances (Rule.routeRules g).1) := by
      rw [← sidecar_plain, ← fromSource_plain, h.routeRules, h.policy, fromSource_plain,
        sidecar_plain]
    simp only [Rule.store_routeRules h.left, Rule.store_routeRules h.right, hsame]

theorem LooksLike.ingressSettings (h : LooksLike f g) (mesh : Mesh) (registry : ρ) (node : Node) :
    (ingressSettings mesh registry f node).1 = (ingressSettings mesh registry g node).1 := by
  have hroutes : edgeRoutes mesh registry (edgeRules (Rule.routeRules f).1)
        (Rule.ingressRules f).1 =
      edgeRoutes mesh registry (edgeRules (Rule.routeRules g).1) (Rule.ingressRules g).1 := by
    rw [← edgeRoutes_plain, ← edgeRules_plain, h.routeRules, h.ingressRules, edgeRules_plain,
      edgeRoutes_plain]
  have hpolicy : ingress mesh registry (Rule.versionPolicy? f) node =
      ingress mesh registry (Rule.versionPolicy? g) node := by
    funext routes
    rw [← ingress_plain, h.policy, ingress_plain]
  simp only [Build.ingressSettings, Rule.store_routeRules h.left, Rule.store_routeRules h.right,
    Rule.store_ingressRules h.left, Rule.store_ingressRules h.right, hroutes, hpolicy]
  cases edgeRoutes mesh registry (edgeRules (Rule.routeRules g).1) (Rule.ingressRules g).1 <;> rfl

theorem LooksLike.settings (h : LooksLike f g) (mesh : Mesh) (registry : ρ) (node : Node) :
    (settings mesh registry f node).1 = (settings mesh registry g node).1 := by
  rw [Build.settings, Build.settings]
  cases node.role with
  | sidecar => exact h.sidecarSettings mesh registry node
  | ingress => exact h.ingressSettings mesh registry node
  | egress =>
    simp only [egressSettings]
    split <;> rfl

/-- Only a sidecar asks for management ports, and only for those at its address. -/
theorem settings_withPortsOf (mesh : Mesh) {r q : Registry.Memory} (store : σ) {node : Node}
    (hports : node.role = .sidecar → q.managementPorts.find? node.address.text =
      r.managementPorts.find? node.address.text) :
    settings mesh (r.withPortsOf q) store node = settings mesh r store node := by
  rw [Build.settings, Build.settings]
  cases hrole : node.role with
  | sidecar =>
    have hsame : Directory.managementPorts (r.withPortsOf q) node.address.text =
      Directory.managementPorts r node.address.text := hports hrole
    simp only [Build.sidecarSettings, sidecar, hsame]
    rfl
  | ingress =>
    have hroutes : ∀ rules ingressRules, edgeRoutes mesh (r.withPortsOf q) rules ingressRules =
        edgeRoutes mesh r rules ingressRules := by
      intro rules ingressRules
      induction ingressRules with
      | nil => rfl
      | cons first ingressRules ih =>
        rw [edgeRoutes, edgeRoutes, ih]
        rfl
    simp only [Build.ingressSettings, hroutes]
    rfl
  | egress => rfl

end Build

/-! ### Answers -/

namespace Discovery

open Proxy

variable {ρ σ : Type} [Directory ρ] [Store σ] {f g : Front σ}

/-- The proxy that asks. -/
def Endpoint.node? : Endpoint → Option Node
  | clusters _ node | listeners _ node | routes _ _ node => (Node.ofText node).toOption
  | registration _ | cacheStats => none

/-- The address of the sidecar that asks. -/
def Endpoint.sidecar? (e : Endpoint) : Option String :=
  (e.node?.filter (·.role == .sidecar)).map (·.address.text)

theorem respond_front (mesh : Mesh) (registry : ρ) (hlive : f.live = true) (endpoint : Endpoint) :
    (respond mesh registry f endpoint).2 = f := by
  have hsettings : ∀ {α : Type} (cluster node : String) (part : Settings → Except RequestError α),
      (ofSettings mesh registry f cluster node part).2 = f := by
    intro α cluster node part
    rw [ofSettings]
    split
    · rfl
    · next node _ => exact Build.settings_front mesh registry hlive node
  cases endpoint with
  | registration key => rfl
  | clusters cluster node => exact hsettings ..
  | listeners cluster node => exact hsettings ..
  | routes name cluster node =>
    rw [respond]
    split
    · rfl
    · exact hsettings ..
  | cacheStats => rfl

/-- An answer follows from the hosts of the services and the settings of the proxy that asks. -/
theorem respond_congr {mesh : Mesh} {registry registry' : ρ} {store store' : σ}
    {endpoint : Endpoint} (hhosts : ∀ key, hosts registry key = hosts registry' key)
    (hsettings : ∀ node, endpoint.node? = some node →
      (Build.settings mesh registry store node).1 = (Build.settings mesh registry' store' node).1) :
    (respond mesh registry store endpoint).1 = (respond mesh registry' store' endpoint).1 := by
  have hpart : ∀ {α : Type} (cluster text : String) (part : Settings → Except RequestError α),
      endpoint.node? = (Node.ofText text).toOption →
        (ofSettings mesh registry store cluster text part).1 =
          (ofSettings mesh registry' store' cluster text part).1 := by
    intro α cluster text part htext
    rw [ofSettings, ofSettings, readNode]
    split
    · rfl
    · next node hread =>
      split at hread
      · cases hread
      · cases hnode : Node.ofText text with
        | error e => rw [hnode] at hread; cases hread
        | ok asking =>
          rw [hnode] at hread htext
          obtain rfl : asking = node := Except.ok.inj hread
          simp only [hsettings asking htext]
  cases endpoint with
  | registration key =>
    rw [respond, respond, hhosts]
  | clusters cluster node => exact hpart cluster node _ rfl
  | listeners cluster node => exact hpart cluster node _ rfl
  | routes name cluster node =>
    rw [respond, respond]
    split
    · rfl
    · exact hpart cluster node _ rfl
  | cacheStats => rfl

/-- Running controllers that look the same give the same answers. -/
theorem respond_front_congr (mesh : Mesh) (registry : ρ) (h : Build.LooksLike f g)
    (endpoint : Endpoint) :
    (respond mesh registry f endpoint).1 = (respond mesh registry g endpoint).1 :=
  respond_congr (fun _ => rfl) fun node _ => h.settings mesh registry node

/-- Of the management ports an answer shows those at the address of the sidecar that asks. -/
theorem respond_withPortsOf (mesh : Mesh) {r q : Registry.Memory} (store : σ) {endpoint : Endpoint}
    (hports : ∀ address, endpoint.sidecar? = some address →
      q.managementPorts.find? address = r.managementPorts.find? address) :
    (respond mesh (r.withPortsOf q) store endpoint).1 = (respond mesh r store endpoint).1 := by
  refine respond_congr (fun _ => rfl) fun node hnode => ?_
  rw [Build.settings_withPortsOf]
  intro hrole
  refine hports node.address.text ?_
  rw [Endpoint.sidecar?, hnode, Option.filter_some, if_pos (beq_iff_eq.mpr hrole), Option.map_some]

end Discovery

end MeshControl
