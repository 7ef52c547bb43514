import MeshControl.Proofs.Build.Targets

/-!
When clusters of one kind can stand together. Targets clash when they differ in nothing but the
port behind one name, and a target never agrees with a service outside the mesh of its name;
clusters for the ports of a workload, or for ports outside, agree when ports with one number take
HTTP/2 all or none.
-/
namespace MeshControl

/-! ### Names -/

namespace Proxy.Subset

/-- The clusters of two targets have one name. -/
def SharesName (s t : Subset) : Prop :=
  s.hostname = t.hostname ∧ s.port.name = t.port.name ∧ s.tags = t.tags

/-- One name stands for two ports. -/
def Clashes (s t : Subset) : Prop := s.SharesName t ∧ s.port ≠ t.port

instance (s t : Subset) : Decidable (s.SharesName t) :=
  inferInstanceAs
    (Decidable (s.hostname = t.hostname ∧ s.port.name = t.port.name ∧ s.tags = t.tags))

instance (s t : Subset) : Decidable (s.Clashes t) :=
  inferInstanceAs (Decidable (s.SharesName t ∧ s.port ≠ t.port))

theorem SharesName.symm {s t : Subset} (h : s.SharesName t) : t.SharesName s :=
  ⟨h.1.symm, h.2.1.symm, h.2.2.symm⟩

theorem Clashes.symm {s t : Subset} (h : s.Clashes t) : t.Clashes s := ⟨h.1.symm, h.2.symm⟩

theorem SharesName.clashes_iff {s t : Subset} (h : s.SharesName t) : s.Clashes t ↔ s ≠ t := by
  obtain ⟨hhost, hname, htags⟩ := h
  constructor
  · rintro ⟨-, hport⟩ rfl
    exact hport rfl
  · intro hne
    refine ⟨⟨hhost, hname, htags⟩, fun hport => hne ?_⟩
    cases s
    cases t
    cases hhost
    cases htags
    cases hport
    rfl

end Proxy.Subset

namespace Build

open Proxy Registry

theorem inboundName_inj {m n : Nat} : s!"inbound:{m}" = s!"inbound:{n}" ↔ m = n := by
  rw [← Decimal.toString_nat_inj, ← String.toList_inj, ← String.toList_inj]
  simp

/-! ### Checked targets -/

theorem isChecked_wholeService {s : Service} (h : s.validate = []) {p : Port} (hp : p ∈ s.ports) :
    (wholeService s p).IsChecked where
  hostname := Service.fqdn_of_validate h
  port := (Service.ports_of_validate h).2 p hp
  tags := rfl

/-- A checked rule sends to checked targets at every port with a good name. -/
theorem isChecked_ruleTargets {rule : RouteRule} (h : rule.validateBody = .ok []) {p : Port}
    (hp : p.name = "" ∨ Validation.isLabel p.name = true) {t : Subset}
    (ht : t ∈ ruleTargets rule p) : t.IsChecked := by
  obtain ⟨hdestination, hroutes⟩ := RouteRule.of_validateBody h
  rw [ruleTargets] at ht
  split at ht
  · rw [List.mem_singleton] at ht
    subst ht
    exact ⟨hdestination, hp, rfl⟩
  · next hne =>
    obtain ⟨w, hw, rfl⟩ := List.mem_map.mp ht
    obtain ⟨hall, -⟩ := RouteRule.of_validateRoutes hroutes (List.ne_nil_of_mem hw)
    have hvalid := hall w hw
    simp only [WeightedDestination.validate, List.append_eq_nil_iff] at hvalid
    obtain ⟨⟨hname, htags⟩, -⟩ := hvalid
    refine ⟨?_, hp, htags⟩
    cases hd : w.destination with
    | none => exact hdestination
    | some d => simpa [hd] using hname

/-- All rules are checked, but for their names. -/
def AllChecked (rules : List RouteRule) : Prop := ∀ rule ∈ rules, rule.validateBody = .ok []

/-! ### Families of clusters -/

theorem agree_map_iff {α : Type} (f : α → Cluster) (l : List α) :
    Cluster.Agree (l.map f) ↔ ∀ a ∈ l, ∀ b ∈ l, (f a).name = (f b).name → f a = f b := by
  simp [Cluster.Agree]

theorem name_targetCluster_eq_iff {mesh : Mesh} {s t : Subset} (hs : s.IsChecked)
    (ht : t.IsChecked) :
    (targetCluster mesh s).name = (targetCluster mesh t).name ↔ s.SharesName t :=
  outboundName_inj hs ht

theorem targetCluster_inj {mesh : Mesh} {s t : Subset} :
    targetCluster mesh s = targetCluster mesh t ↔ s = t := by
  constructor
  · intro h
    have hsubset : (targetCluster mesh s).subset = (targetCluster mesh t).subset := by rw [h]
    exact Option.some.inj hsubset
  · rintro rfl
    rfl

theorem agree_targets_iff {mesh : Mesh} {targets : List Subset}
    (h : ∀ t ∈ targets, t.IsChecked) :
    Cluster.Agree (targets.map (targetCluster mesh)) ↔
      ∀ s ∈ targets, ∀ t ∈ targets, ¬ s.Clashes t := by
  rw [agree_map_iff]
  refine forall₂_congr fun s hs => forall₂_congr fun t ht => ?_
  rw [name_targetCluster_eq_iff (h s hs) (h t ht), targetCluster_inj]
  constructor
  · intro hsame hclash
    exact hclash.1.clashes_iff.mp hclash (hsame hclash.1)
  · intro hclash hname
    by_contra hne
    exact hclash (hname.clashes_iff.mpr hne)

/-- A target and a service outside the mesh are never the same cluster. -/
theorem target_escape_agree_iff {mesh : Mesh} {targets outside : List Subset}
    (ht : ∀ t ∈ targets, t.IsChecked) (he : ∀ e ∈ outside, e.IsChecked) :
    (∀ c ∈ targets.map (targetCluster mesh), ∀ d ∈ outside.map (escapeCluster mesh),
        c.name = d.name → c = d) ↔
      ∀ t ∈ targets, ∀ e ∈ outside, ¬ t.SharesName e := by
  simp only [List.forall_mem_map]
  refine forall₂_congr fun t hmem => forall₂_congr fun e hmem' => ?_
  have hname : (targetCluster mesh t).name = (escapeCluster mesh e).name ↔ t.SharesName e :=
    outboundName_inj (ht t hmem) (he e hmem')
  have hne : targetCluster mesh t ≠ escapeCluster mesh e := by
    intro h
    have hsubset : (targetCluster mesh t).subset = (escapeCluster mesh e).subset := by rw [h]
    cases hsubset
  rw [hname]
  simp [hne]

/-- Ports with one key take HTTP/2 all or none. -/
def Uniform {κ : Type} (ports : List (κ × Protocol)) : Prop :=
  ∀ p ∈ ports, ∀ q ∈ ports, p.1 = q.1 → p.2.isHttp2 = q.2.isHttp2

instance {κ : Type} [DecidableEq κ] (ports : List (κ × Protocol)) : Decidable (Uniform ports) :=
  inferInstanceAs (Decidable (∀ p ∈ ports, ∀ q ∈ ports, p.1 = q.1 → p.2.isHttp2 = q.2.isHttp2))

/-- Clusters that are named by a key and else depend on HTTP/2 alone. -/
theorem agree_iff_uniform {κ : Type} (f : κ × Protocol → Cluster)
    (hname : ∀ p q, (f p).name = (f q).name ↔ p.1 = q.1)
    (hsame : ∀ p q, p.1 = q.1 → (f p = f q ↔ p.2.isHttp2 = q.2.isHttp2))
    (ports : List (κ × Protocol)) :
    Cluster.Agree (ports.map f) ↔ Uniform ports := by
  rw [agree_map_iff]
  refine forall₂_congr fun p _ => forall₂_congr fun q _ => ?_
  rw [hname]
  exact imp_congr_right (hsame p q)

/-! ### Ports of the workload -/

def isProxied (protocol : Protocol) : Bool := protocol.isHttp || protocol.isTcp

/-- The ports of a workload that connections are taken on: those of its instances, and its ports
for health checks that no instance serves. -/
def inboundPorts (registry : Registry.Memory) (ip : String) : List (Nat × Protocol) :=
  let instances := registry.instancesAt [ip]
  let checks := ((registry.managementPorts.find? ip).getD []).filter fun p =>
    !instances.any (·.endpoint.port == p.number)
  ((instances.map fun i => (i.endpoint.port, i.endpoint.servicePort.protocol)) ++
    checks.map fun p => (p.number, p.protocol)).filter fun (_, protocol) => isProxied protocol

theorem cluster_inbound? (mesh : Mesh) (address : String) (port : Nat) (protocol : Protocol)
    (checked : Bool) :
    (inbound? mesh address port protocol checked).map (·.2) =
      if isProxied protocol then some (inboundCluster mesh port protocol) else none := by
  rw [inbound?, isProxied]
  cases protocol.isHttp <;> cases protocol.isTcp <;> rfl

/-- A listener into the workload is for requests, with a virtual host of its own, or for
connections. -/
theorem cases_of_inbound? {mesh : Mesh} {address : String} {port : Nat} {protocol : Protocol}
    {checked : Bool} {l : Listener} {c : Cluster}
    (h : inbound? mesh address port protocol checked = some (l, c)) :
    isProxied protocol = true ∧ c = inboundCluster mesh port protocol ∧
      (l = .on "http" address port (.http (.ofRoutes (.written
          (inboundRoutes c address port (checked && mesh.mixerAddress.isSome))))) ∨
        l = .on "tcp" address port (.tcp [⟨c.name, [blockOf address], none⟩])) := by
  simp only [inbound?] at h
  rw [isProxied]
  split at h
  · next hhttp =>
    obtain ⟨rfl, rfl⟩ := Prod.mk.inj (Option.some.inj h)
    exact ⟨by rw [hhttp, Bool.true_or], rfl, .inl rfl⟩
  · split at h
    · next htcp =>
      obtain ⟨rfl, rfl⟩ := Prod.mk.inj (Option.some.inj h)
      exact ⟨by rw [htcp, Bool.or_true], rfl, .inr rfl⟩
    · cases h

/-- The listener of an instance differs from any other into the workload in its encryption. -/
theorem exists_plain_of_instanceInbound? {mesh : Mesh} {i : Instance} {l : Listener} {c : Cluster}
    (h : instanceInbound? mesh i = some (l, c)) :
    ∃ plain, inbound? mesh i.endpoint.address i.endpoint.port i.endpoint.servicePort.protocol true =
        some (plain, c) ∧
      l = { plain with tls := if mesh.isMutualTls then some (serverTls mesh) else plain.tls } := by
  obtain ⟨⟨plain, c'⟩, hplain, heq⟩ := Option.map_eq_some_iff.mp h
  obtain ⟨rfl, rfl⟩ := Prod.mk.inj heq
  refine ⟨plain, hplain, ?_⟩
  split <;> rfl

theorem cluster_instanceInbound? (mesh : Mesh) (i : Instance) :
    (instanceInbound? mesh i).map (·.2) =
      if isProxied i.endpoint.servicePort.protocol then
        some (inboundCluster mesh i.endpoint.port i.endpoint.servicePort.protocol)
      else none := by
  rw [instanceInbound?, Option.map_map,
    ← cluster_inbound? mesh i.endpoint.address i.endpoint.port _ true]
  rfl

theorem cluster_of_instanceInbound? {mesh : Mesh} {i : Instance} {l : Listener} {c : Cluster}
    (h : instanceInbound? mesh i = some (l, c)) :
    c = inboundCluster mesh i.endpoint.port i.endpoint.servicePort.protocol := by
  obtain ⟨plain, hplain, -⟩ := exists_plain_of_instanceInbound? h
  exact (cases_of_inbound? hplain).2.1

theorem map_filter_isProxied {α : Type} (f : α → Nat × Protocol) (g : Nat → Protocol → Cluster)
    (l : List α) :
    ((l.map f).filter fun (_, protocol) => isProxied protocol).map (fun p => g p.1 p.2) =
      l.filterMap fun a => if isProxied (f a).2 then some (g (f a).1 (f a).2) else none := by
  induction l with
  | nil => rfl
  | cons a l ih =>
    rw [List.map_cons, List.filterMap_cons]
    cases h : isProxied (f a).2 with
    | true =>
      rw [List.filter_cons_of_pos (by simpa using h)]
      simp [ih]
    | false =>
      rw [List.filter_cons_of_neg (by simpa using h)]
      simp [ih]

/-- The clusters of the workload, in the order of its ports. -/
theorem clusters_inbound (mesh : Mesh) (registry : Registry.Memory) (ip : String) :
    let instances := registry.instancesAt [ip]
    ((instances.filterMap (instanceInbound? mesh)).map (·.2)) ++
        (managementInbound mesh ip instances
          ((registry.managementPorts.find? ip).getD [])).map (·.2) =
      (inboundPorts registry ip).map fun p => inboundCluster mesh p.1 p.2 := by
  intro instances
  rw [inboundPorts, List.filter_append, List.map_append, map_filter_isProxied,
    map_filter_isProxied, managementInbound, List.map_filterMap, List.map_filterMap]
  simp only [cluster_instanceInbound?, cluster_inbound?]
  rfl

theorem agree_inbound_iff (mesh : Mesh) (ports : List (Nat × Protocol)) :
    Cluster.Agree (ports.map fun p => inboundCluster mesh p.1 p.2) ↔ Uniform ports := by
  apply agree_iff_uniform
  · intro p q
    exact inboundName_inj
  · rintro ⟨m, p⟩ ⟨n, q⟩ heq
    obtain rfl : m = n := heq
    simp [inboundCluster]

/-! ### Ports outside the mesh -/

/-- The ports that the egress proxy calls, by the name outside and the number. -/
def outsidePorts (registry : Registry.Memory) : List ((String × Nat) × Protocol) :=
  registry.services.values.flatMap fun s =>
    s.externalName.toList.flatMap fun outside =>
      (s.ports.filter (·.protocol.isHttp)).map fun p => ((outside, p.number), p.protocol)

def outsideCluster (mesh : Mesh) (p : (String × Nat) × Protocol) : Cluster :=
  let host := s!"{p.1.1}:{p.1.2}"
  .ofHost s!"outbound:{host}" mesh.connectTimeout.millis host p.2.isHttp2

/-- The port stands behind the last colon, so the name tells the host, whatever it holds. -/
theorem name_outsideCluster_eq_iff {mesh : Mesh} {p q : (String × Nat) × Protocol} :
    (outsideCluster mesh p).name = (outsideCluster mesh q).name ↔ p.1 = q.1 := by
  obtain ⟨⟨a, m⟩, p⟩ := p
  obtain ⟨⟨b, n⟩, q⟩ := q
  constructor
  · intro h
    have hchars : a.toList ++ ':' :: (toString m).toList =
        b.toList ++ ':' :: (toString n).toList := by
      simpa [outsideCluster, Cluster.ofHost, Cluster.named, ToString.toString] using
        congrArg String.toList h
    rw [Decimal.append_cons_toString_inj (by decide), String.toList_inj] at hchars
    exact Prod.ext hchars.1 hchars.2
  · intro h
    cases h
    rfl

theorem agree_outside_iff (mesh : Mesh) (ports : List ((String × Nat) × Protocol)) :
    Cluster.Agree (ports.map (outsideCluster mesh)) ↔ Uniform ports := by
  apply agree_iff_uniform
  · intro p q
    exact name_outsideCluster_eq_iff
  · rintro ⟨host, p⟩ ⟨host', q⟩ heq
    obtain rfl : host = host' := heq
    simp [outsideCluster, Cluster.ofHost]

theorem mem_outsideHosts {mesh : Mesh} {service : Service} {v : VirtualHost} :
    v ∈ outsideHosts mesh service ↔
      ∃ outside, service.externalName = some outside ∧ ∃ p ∈ service.ports,
        p.protocol.isHttp = true ∧ v = outsideHost mesh service.hostname outside p := by
  rw [outsideHosts]
  cases service.externalName with
  | none => simp
  | some outside =>
    simp only [List.mem_map, List.mem_filter, Option.some.injEq, exists_eq_left', and_assoc]
    exact exists_congr fun p => and_congr_right fun _ => and_congr_right fun _ => eq_comm

theorem mem_clusters_egressConfig {mesh : Mesh} {registry : Registry.Memory} {c : Cluster} :
    c ∈ (egressConfig mesh registry.services.values).clusters ↔
      c ∈ (outsidePorts registry).map (outsideCluster mesh) := by
  have hroute : ∀ hostname outside p,
      (∃ r ∈ (outsideHost mesh hostname outside p).routes, c ∈ r.clusters) ↔
        outsideCluster mesh ((outside, p.number), p.protocol) = c := by
    intro hostname outside p
    rw [eq_comm]
    simp [outsideHost, outsideRoute, HttpRoute.toCluster, outsideCluster]
  rw [egressConfig, RouteConfig.mem_clusters_ofHosts, outsidePorts]
  simp only [List.mem_flatMap, List.mem_map, List.mem_filter, Option.mem_toList, mem_outsideHosts]
  constructor
  · rintro ⟨v, ⟨s, hs, outside, hout, p, hp, hhttp, rfl⟩, hc⟩
    exact ⟨_, ⟨s, hs, outside, hout, p, ⟨hp, hhttp⟩, rfl⟩, (hroute s.hostname outside p).mp hc⟩
  · rintro ⟨_, ⟨s, hs, outside, hout, p, ⟨hp, hhttp⟩, rfl⟩, hc⟩
    exact ⟨_, ⟨s, hs, outside, hout, p, hp, hhttp, rfl⟩, (hroute s.hostname outside p).mpr hc⟩

end Build

end MeshControl
