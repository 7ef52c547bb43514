import MeshControl.Proofs.Build.Encryption
import MeshControl.Proofs.Discovery.Registration

/-!
Whom a proxy takes for the hosts of its clusters. The hosts of a cluster are found under its key,
the identities that they may have are asked for by service and port. Both go back to the same
instances, so no host that is found is turned away for its identity, and no identity is accepted
that none of the instances runs under.
-/
namespace MeshControl

namespace Registry.Memory

/-- The identities behind a port are those of all its instances, whatever their tags. -/
theorem mem_accountsOf {r : Memory} {hostname : String} {ports : List String} {a : String} :
    a ∈ r.accountsOf hostname ports ↔
      ∃ i ∈ r.instancesOf hostname ports [], i.account = some a := by
  rw [accountsOf, mem_sortedSet, List.mem_filterMap]

/-- Tags only narrow down which instances are found. -/
theorem mem_instancesOf_nil {r : Memory} {hostname : String} {ports : List String}
    {tags : TagsList} {i : Instance} (h : i ∈ r.instancesOf hostname ports tags) :
    i ∈ r.instancesOf hostname ports [] := by
  obtain ⟨hmem, hserves⟩ := List.mem_filter.mp h
  rw [serves, Bool.and_eq_true] at hserves
  refine List.mem_filter.mpr ⟨hmem, ?_⟩
  rw [serves, Bool.and_eq_true]
  exact ⟨hserves.1, rfl⟩

theorem of_mem_instancesOf_port {r : Memory} {hostname port : String} {i : Instance}
    (h : i ∈ r.instancesOf hostname [port] []) :
    i ∈ r.instances ∧ i.service.hostname = hostname ∧ i.endpoint.servicePort.name = port := by
  obtain ⟨hmem, hserves⟩ := List.mem_filter.mp h
  simp only [serves, List.isEmpty_cons, Bool.false_or, List.contains_cons, List.contains_nil,
    Bool.or_false, Bool.and_eq_true, beq_iff_eq] at hserves
  exact ⟨hmem, hserves.1.1, hserves.1.2⟩

end Registry.Memory

namespace Discovery

open Proxy Registry Build

/-- How the identities that a cluster expects go with what its key names. -/
structure Identified (registry : Registry.Memory) (k : ServiceKey) (identities : List String) :
    Prop where
  /-- No instance that is found is turned away. -/
  covers : ∀ i ∈ registry.instancesOf k.hostname k.ports k.tags, ∀ a, i.account = some a →
    a ∈ identities
  sorted : identities.Pairwise (· < ·)
  /-- No identity is accepted that none of the instances behind the port has. -/
  backed : ∀ a ∈ identities, ∃ i ∈ registry.instances, i.service.hostname = k.hostname ∧
    k.ports = [i.endpoint.servicePort.name] ∧ i.account = some a

/-- The identities of a part of a service go with the key of the part. -/
theorem identified_accountsOf (registry : Registry.Memory) {t : Subset} (h : t.IsChecked) :
    Identified registry (ServiceKey.parse t.key)
      (registry.accountsOf t.hostname [t.port.name]) := by
  rw [Subset.parse_key h]
  constructor
  case covers =>
    intro i hi a ha
    exact Memory.mem_accountsOf.mpr ⟨i, Memory.mem_instancesOf_nil hi, ha⟩
  case sorted => exact pairwise_sortedSet _
  case backed =>
    intro a ha
    obtain ⟨i, hi, haccount⟩ := Memory.mem_accountsOf.mp ha
    obtain ⟨hmem, hhostname, hport⟩ := Memory.of_mem_instancesOf_port hi
    exact ⟨i, hmem, hhostname, by rw [hport], haccount⟩

/-- Under mutual TLS every cluster that is found by discovery has a key and expects the identities
that go with it. -/
theorem identities_cover_hosts {mesh : Mesh} (hmutual : mesh.isMutualTls = true)
    (ops : List Operation) (calls : List Config.Call) {node : Node} {s : Settings}
    {c : Cluster} :
    let registry := Registry.Memory.afterOperations ops
    let store := Config.afterCalls (Config.Memory.new Rule.catalog) calls
    (settings mesh registry store node).1 = .ok s → c ∈ s.clusters → c.resolution = .sds →
      ∃ key tls, c.serviceName = some key ∧ c.tls = some tls ∧
        Identified registry (ServiceKey.parse key) tls.identities := by
  intro registry store hsettings hc hsds
  have hr : registry.IsSound := Registry.Memory.isSound_afterOperations ops
  have hstore : StoreChecked store :=
    storeChecked_of_accepted (Config.Memory.catalog_afterCalls _ calls)
      (Config.Memory.allAccepted_afterCalls Rule.catalog calls)
  obtain ⟨t, ht, hstands⟩ | hfixed := standsFor_checked_or_isFixed hr hstore hsettings hc
  · have htls := hstands.tls
    rw [tlsFor, if_pos hmutual] at htls
    exact ⟨t.key, _, hstands.serviceName, htls, identified_accountsOf registry ht⟩
  · exact absurd hsds hfixed.resolution

/-! ### A service with several identities -/

def reviewsSpec (address version : String) (account : Option String) : InstanceSpec :=
  ⟨address, 8080, "http", Tags.ofList [("version", version)], none, account⟩

/-- Two instances share an identity, one has none, and one has its own. -/
def severalIdentities : List Operation := [
  .addService ⟨"reviews.local", none, [⟨"http", 80, .http⟩], none⟩,
  .addInstance "reviews.local" (reviewsSpec "10.1.1.1" "v1" (some "spiffe://reviews")),
  .addInstance "reviews.local" (reviewsSpec "10.1.1.2" "v1" (some "spiffe://reviews")),
  .addInstance "reviews.local" (reviewsSpec "10.1.1.3" "v2" none),
  .addInstance "reviews.local" (reviewsSpec "10.1.1.4" "v2" (some "spiffe://canary"))]

def reviewsOnPort80 : Subset := ⟨"reviews.local", ⟨"http", 80, .http⟩, Tags.empty⟩

def reviewsInstanceOf (address version : String) (account : Option String) : Instance :=
  ⟨⟨address, 8080, ⟨"http", 80, .http⟩⟩, ⟨"reviews.local", none, [⟨"http", 80, .http⟩], none⟩,
    Tags.ofList [("version", version)], none, account⟩

theorem identities_cover_hosts_of_canary :
    ∃ s c tls, (settings mutualTlsMesh (Registry.Memory.afterOperations severalIdentities)
        (Config.Memory.new Rule.catalog) (.ofSidecar (.v4 10 1 1 9))).1 = .ok s ∧
      c ∈ s.clusters ∧ c.serviceName = some "reviews.local:http" ∧ c.tls = some tls ∧
      "spiffe://canary" ∈ tls.identities ∧ "spiffe://reviews" ∈ tls.identities ∧
      tls.identities.Pairwise (· < ·) := by
  have hsound := Registry.Memory.isSound_afterOperations severalIdentities
  have hports : Uniform (inboundPorts (Registry.Memory.afterOperations severalIdentities)
      "10.1.1.9") := by decide
  obtain ⟨s, hs⟩ := (settings_new_succeed_iff hsound mutualTlsMesh Rule.catalog
    (.ofSidecar (.v4 10 1 1 9))).mpr hports
  have hrules : sidecarRules (Registry.Memory.afterOperations severalIdentities)
      (Config.Memory.new Rule.catalog) (.ofSidecar (.v4 10 1 1 9)) = [] := List.mergeSort_nil
  have ht : reviewsOnPort80 ∈ sidecarTargets
      (Registry.Memory.afterOperations severalIdentities).services.values [] := by decide
  obtain ⟨c, hc, hstands⟩ := exists_mem_clusters_sidecar (sidecar_of_settings rfl hs)
    (hrules ▸ ht)
  have hkey : c.serviceName = some "reviews.local:http" := by
    rw [hstands.serviceName, Subset.key_eq]
    rfl
  obtain ⟨key, tls, hname, htls, hidentified⟩ :=
    identities_cover_hosts rfl severalIdentities [] hs hc hstands.resolution
  obtain rfl : "reviews.local:http" = key := Option.some.inj (hkey.symm.trans hname)
  have hcanary := hidentified.covers (reviewsInstanceOf "10.1.1.4" "v2" "spiffe://canary")
    (by decide) "spiffe://canary" rfl
  have hreviews := hidentified.covers (reviewsInstanceOf "10.1.1.1" "v1" "spiffe://reviews")
    (by decide) "spiffe://reviews" rfl
  exact ⟨s, c, tls, hs, hc, hkey, htls, hcanary, hreviews, hidentified.sorted⟩

end Discovery

end MeshControl
