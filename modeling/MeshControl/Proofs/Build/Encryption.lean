import MeshControl.Proofs.Build.Finished

/-!
Under mutual TLS nothing is taken or sent in the clear where the mesh can avoid it. The listeners
of a workload stand before all others that compete for their addresses, so none of them is
displaced; the calls to parts of mesh services, and no others, are encrypted.
-/
namespace MeshControl

namespace Proxy.Listener

/-- Callers are taken only with a certificate. -/
def RequiresCertificate (l : Listener) : Prop :=
  ∃ tls, l.tls = some tls ∧ tls.requiresClientCert = true

@[simp] theorem address_mapFilters (f : HttpManager → List HttpFilter) (l : Listener) :
    (l.mapFilters f).address = l.address := by
  rw [mapFilters]
  split <;> rfl

@[simp] theorem tls_mapFilters (f : HttpManager → List HttpFilter) (l : Listener) :
    (l.mapFilters f).tls = l.tls := by
  rw [mapFilters]
  split <;> rfl

/-- The port stands behind the last colon of an address. -/
theorem addressOf_inj {ip ip' : String} {port port' : Nat} :
    addressOf ip port = addressOf ip' port' ↔ ip = ip' ∧ port = port' := by
  constructor
  · intro h
    have hchars : ip.toList ++ ':' :: (toString port).toList =
        ip'.toList ++ ':' :: (toString port').toList := by
      simpa [addressOf, ToString.toString] using congrArg String.toList h
    rw [Decimal.append_cons_toString_inj (by decide), String.toList_inj] at hchars
    exact hchars
  · rintro ⟨rfl, rfl⟩
    rfl

end Proxy.Listener

namespace Build

open Proxy Registry Config

variable {ρ σ : Type} [Directory ρ] [Store σ]

/-! ### One listener for each address -/

theorem mem_of_mem_firstPerAddress {seen : List String} {ls : List Listener} {l : Listener}
    (h : l ∈ firstPerAddress seen ls) : l ∈ ls := by
  induction ls generalizing seen with
  | nil => exact h
  | cons a ls ih =>
    rw [firstPerAddress] at h
    split at h
    · exact List.mem_cons_of_mem _ (ih h)
    · rcases List.mem_cons.mp h with rfl | hrest
      · exact List.mem_cons_self
      · exact List.mem_cons_of_mem _ (ih hrest)

theorem address_notMem_seen {seen : List String} {ls : List Listener} {l : Listener}
    (h : l ∈ firstPerAddress seen ls) : l.address ∉ seen := by
  induction ls generalizing seen with
  | nil => cases h
  | cons a ls ih =>
    rw [firstPerAddress] at h
    split at h
    · exact ih h
    · next hnew =>
      rcases List.mem_cons.mp h with rfl | hrest
      · simpa using hnew
      · exact fun hmem => ih hrest (List.mem_cons_of_mem _ hmem)

/-- No address is lost. -/
theorem exists_mem_firstPerAddress {seen : List String} {ls : List Listener} {l : Listener}
    (hl : l ∈ ls) (hnew : l.address ∉ seen) :
    ∃ k ∈ firstPerAddress seen ls, k.address = l.address := by
  induction ls generalizing seen with
  | nil => cases hl
  | cons a ls ih =>
    rw [firstPerAddress]
    rcases List.mem_cons.mp hl with rfl | hrest
    · rw [if_neg (by simpa using hnew)]
      exact ⟨l, List.mem_cons_self, rfl⟩
    · split
      · exact ih hrest hnew
      · by_cases hsame : l.address = a.address
        · exact ⟨a, List.mem_cons_self, hsame.symm⟩
        · have hnew' : l.address ∉ a.address :: seen := by simp [hsame, hnew]
          obtain ⟨k, hk, haddress⟩ := ih hrest hnew'
          exact ⟨k, List.mem_cons_of_mem _ hk, haddress⟩

/-- What stands in front keeps its addresses. -/
theorem mem_front_of_firstPerAddress {seen : List String} {front back : List Listener}
    {l k : Listener} (h : l ∈ firstPerAddress seen (front ++ back)) (hk : k ∈ front)
    (hsame : l.address = k.address) : l ∈ front := by
  induction front generalizing seen with
  | nil => cases hk
  | cons a front ih =>
    rw [List.cons_append, firstPerAddress] at h
    split at h
    · next hseen =>
      rcases List.mem_cons.mp hk with rfl | hrest
      · have hmem : l.address ∈ seen := by
          rw [hsame]
          simpa using hseen
        exact absurd hmem (address_notMem_seen h)
      · exact List.mem_cons_of_mem _ (ih h hrest)
    · rcases List.mem_cons.mp h with rfl | hl
      · exact List.mem_cons_self
      · rcases List.mem_cons.mp hk with rfl | hrest
        · exact absurd (hsame ▸ List.mem_cons_self) (address_notMem_seen hl)
        · exact List.mem_cons_of_mem _ (ih hl hrest)

/-! ### The listeners of a sidecar -/

/-- The listeners on the ports of the instances. -/
def workloadListeners (mesh : Mesh) (node : Node) (table : RouteTable)
    (instances : List Instance) : List Listener :=
  ((instances.filterMap (instanceInbound? mesh)).map (·.1)).map (insertFilters mesh node table)

/-- The listeners for requests and connections out of the workload. -/
def outwardListeners (mesh : Mesh) (node : Node) (table : RouteTable)
    (services : List Service) : List Listener :=
  (outboundListeners mesh table ++ tcpListeners mesh services).map
    (insertFilters mesh node table)

def checkListeners (mesh : Mesh) (registry : ρ) (node : Node) (instances : List Instance) :
    List Listener :=
  (managementInbound mesh node.address.text instances
    ((Directory.managementPorts registry node.address.text).getD [])).map (·.1)

/-- All listeners of a sidecar that callers of the workload have no use for. -/
def otherListeners (mesh : Mesh) (registry : ρ) (node : Node) (table : RouteTable)
    (instances : List Instance) (services : List Service) : List Listener :=
  outwardListeners mesh node table services ++ checkListeners mesh registry node instances ++
    [virtualListener mesh]

theorem address_insertFilters (mesh : Mesh) (node : Node) (table : RouteTable) (l : Listener) :
    (insertFilters mesh node table l).address = l.address := by
  rw [insertFilters]
  split <;> simp [insertMixer, insertFaults]

theorem tls_insertFilters (mesh : Mesh) (node : Node) (table : RouteTable) (l : Listener) :
    (insertFilters mesh node table l).tls = l.tls := by
  rw [insertFilters]
  split <;> simp [insertMixer, insertFaults]

/-- A listener on a port of the workload is not encrypted by itself. -/
theorem of_inbound? {mesh : Mesh} {address : String} {port : Nat} {protocol : Protocol}
    {checked : Bool} {l : Listener} {c : Cluster}
    (h : inbound? mesh address port protocol checked = some (l, c)) :
    l.address = Listener.addressOf address port ∧ l.tls = none := by
  obtain ⟨-, -, rfl | rfl⟩ := cases_of_inbound? h
  · exact ⟨rfl, rfl⟩
  · exact ⟨rfl, rfl⟩

/-- How callers of the workload are encrypted. -/
def workloadTls (mesh : Mesh) : Option ServerTls :=
  if mesh.isMutualTls then some (serverTls mesh) else none

theorem of_instanceInbound? {mesh : Mesh} {i : Instance} {l : Listener} {c : Cluster}
    (h : instanceInbound? mesh i = some (l, c)) :
    l.address = Listener.addressOf i.endpoint.address i.endpoint.port ∧
      l.tls = workloadTls mesh := by
  obtain ⟨plain, hplain, rfl⟩ := exists_plain_of_instanceInbound? h
  obtain ⟨haddress, htls⟩ := of_inbound? hplain
  rw [workloadTls, ← htls]
  exact ⟨haddress, rfl⟩

theorem mem_workloadListeners {mesh : Mesh} {node : Node} {table : RouteTable}
    {instances : List Instance} {l : Listener} :
    l ∈ workloadListeners mesh node table instances ↔
      ∃ i ∈ instances, ∃ plain c, instanceInbound? mesh i = some (plain, c) ∧
        l = insertFilters mesh node table plain := by
  simp only [workloadListeners, List.mem_map, List.mem_filterMap, Prod.exists]
  grind

theorem tls_of_mem_workloadListeners {mesh : Mesh} {node : Node} {table : RouteTable}
    {instances : List Instance} {l : Listener}
    (h : l ∈ workloadListeners mesh node table instances) : l.tls = workloadTls mesh := by
  obtain ⟨i, -, plain, c, hplain, rfl⟩ := mem_workloadListeners.mp h
  rw [tls_insertFilters]
  exact (of_instanceInbound? hplain).2

/-- A proxied instance has a listener at its own address. -/
theorem exists_mem_workloadListeners (mesh : Mesh) (node : Node) (table : RouteTable)
    {instances : List Instance} {i : Instance} (hi : i ∈ instances)
    (hproxied : isProxied i.endpoint.servicePort.protocol = true) :
    ∃ l ∈ workloadListeners mesh node table instances,
      l.address = Listener.addressOf i.endpoint.address i.endpoint.port := by
  have hcluster := cluster_instanceInbound? mesh i
  rw [if_pos hproxied] at hcluster
  obtain ⟨⟨plain, c⟩, hplain, -⟩ := Option.map_eq_some_iff.mp hcluster
  refine ⟨insertFilters mesh node table plain,
    mem_workloadListeners.mpr ⟨i, hi, plain, c, hplain, rfl⟩, ?_⟩
  rw [address_insertFilters]
  exact (of_instanceInbound? hplain).1

theorem tls_of_mem_otherListeners {mesh : Mesh} {registry : ρ} {node : Node}
    {table : RouteTable} {instances : List Instance} {services : List Service} {l : Listener}
    (h : l ∈ otherListeners mesh registry node table instances services) : l.tls = none := by
  rcases List.mem_append.mp h with h | hvirtual
  · rcases List.mem_append.mp h with houtward | hcheck
    · obtain ⟨plain, hplain, rfl⟩ := List.mem_map.mp houtward
      rw [tls_insertFilters]
      rcases List.mem_append.mp hplain with hrequests | hconnections
      · obtain ⟨port, -, rfl⟩ := List.mem_map.mp hrequests
        rfl
      · obtain ⟨group, -, rfl⟩ := List.mem_map.mp hconnections
        rfl
    · obtain ⟨⟨l, c⟩, hmem, rfl⟩ := List.mem_map.mp hcheck
      obtain ⟨p, -, hp⟩ := List.mem_filterMap.mp hmem
      exact (of_inbound? hp).2
  · obtain rfl := List.mem_singleton.mp hvirtual
    rfl

/-! ### Encryption -/

/-- What holds of the listeners of a sidecar, given the instances on its address and all
services. -/
structure Encrypted (mesh : Mesh) (registry : ρ) (node : Node) (instances : List Instance)
    (services : List Service) (s : Settings) : Prop where
  origin : ∀ l ∈ s.listeners, l ∈ workloadListeners mesh node s.routes instances ∨
    l ∈ otherListeners mesh registry node s.routes instances services
  /-- An instance that is proxied takes no caller without a certificate. -/
  workload : mesh.isMutualTls = true → ∀ i ∈ instances,
    isProxied i.endpoint.servicePort.protocol = true →
      ∃ l ∈ s.listeners, l.address = Listener.addressOf i.endpoint.address i.endpoint.port ∧
        l.RequiresCertificate
  /-- Nothing else is listened for at its address, but on the wildcard. -/
  alone : mesh.isMutualTls = true → ∀ i ∈ instances,
    isProxied i.endpoint.servicePort.protocol = true → i.endpoint.address ≠ wildcard →
      ∀ l ∈ s.listeners,
        l.address = Listener.addressOf i.endpoint.address i.endpoint.port → l.RequiresCertificate
  others : ∀ l ∈ otherListeners mesh registry node s.routes instances services, l.tls = none
  plain : mesh.isMutualTls = false → ∀ l ∈ s.listeners, l.tls = none

theorem requiresCertificate_of_tls {mesh : Mesh} {l : Listener} (hmutual : mesh.isMutualTls = true)
    (h : l.tls = workloadTls mesh) : l.RequiresCertificate := by
  rw [workloadTls, if_pos hmutual] at h
  exact ⟨serverTls mesh, h, rfl⟩

/-- The listeners of the workload come first. -/
theorem listeners_sidecar {mesh : Mesh} {registry : ρ}
    {policy : String → Tags → Option VersionPolicy} {node : Node} {instances : List Instance}
    {services : List Service} {rules : List RouteRule} {s : Settings}
    (h : sidecar mesh registry policy node instances services rules = .ok s) :
    s.listeners = sortListeners (firstPerAddress []
      (workloadListeners mesh node s.routes instances ++
        (outwardListeners mesh node s.routes services ++
          checkListeners mesh registry node instances))) ++ [virtualListener mesh] := by
  obtain ⟨clusters, -, rfl⟩ := exists_of_map_eq_ok h
  simp only [workloadListeners, outwardListeners, checkListeners, List.map_append,
    List.append_assoc]

theorem encrypted_sidecar {mesh : Mesh} {registry : ρ}
    {policy : String → Tags → Option VersionPolicy} {node : Node} {instances : List Instance}
    {services : List Service} {rules : List RouteRule} {s : Settings}
    (h : sidecar mesh registry policy node instances services rules = .ok s) :
    Encrypted mesh registry node instances services s := by
  have hlisteners : ∀ l, l ∈ s.listeners ↔
      l ∈ firstPerAddress [] (workloadListeners mesh node s.routes instances ++
        (outwardListeners mesh node s.routes services ++
          checkListeners mesh registry node instances)) ∨ l = virtualListener mesh := by
    intro l
    rw [listeners_sidecar h, List.mem_append, List.mem_singleton, sortListeners,
      List.mem_mergeSort]
  have horigin : ∀ l ∈ s.listeners, l ∈ workloadListeners mesh node s.routes instances ∨
      l ∈ otherListeners mesh registry node s.routes instances services := by
    intro l hl
    rcases (hlisteners l).mp hl with hfirst | rfl
    · rcases List.mem_append.mp (mem_of_mem_firstPerAddress hfirst) with hown | hback
      · exact .inl hown
      · exact .inr (List.mem_append_left _ hback)
    · exact .inr (List.mem_append_right _ List.mem_cons_self)
  constructor
  case origin => exact horigin
  case workload =>
    intro hmutual i hi hproxied
    obtain ⟨k, hk, haddress⟩ := exists_mem_workloadListeners mesh node s.routes hi hproxied
    obtain ⟨l, hl, hsame⟩ := exists_mem_firstPerAddress
      (List.mem_append_left _ hk) List.not_mem_nil
    have hown := mem_front_of_firstPerAddress hl hk hsame
    exact ⟨l, (hlisteners l).mpr (.inl hl), hsame.trans haddress,
      requiresCertificate_of_tls hmutual (tls_of_mem_workloadListeners hown)⟩
  case alone =>
    intro hmutual i hi hproxied hip l hl haddress
    obtain ⟨k, hk, hkaddress⟩ := exists_mem_workloadListeners mesh node s.routes hi hproxied
    rcases (hlisteners l).mp hl with hfirst | rfl
    · have hown := mem_front_of_firstPerAddress hfirst hk (haddress.trans hkaddress.symm)
      exact requiresCertificate_of_tls hmutual (tls_of_mem_workloadListeners hown)
    · exact absurd (Listener.addressOf_inj.mp haddress).1.symm hip
  case others => exact fun l hl => tls_of_mem_otherListeners hl
  case plain =>
    intro hplain l hl
    rcases horigin l hl with hown | hother
    · rw [tls_of_mem_workloadListeners hown, workloadTls, hplain]
      rfl
    · exact tls_of_mem_otherListeners hother

/-- Calls are encrypted under mutual TLS, exactly those to parts of mesh services. -/
theorem tls_iff_of_mem_clusters {mesh : Mesh} {registry : ρ} {store : σ} {node : Node}
    {s : Settings} (h : (settings mesh registry store node).1 = .ok s) {c : Cluster}
    (hc : c ∈ s.clusters) :
    (c.resolution = .sds ↔ c.serviceName.isSome = true) ∧
      (c.tls.isSome = true ↔ mesh.isMutualTls = true ∧ c.resolution = .sds) := by
  rcases standsFor_or_isFixed h hc with ⟨t, ht⟩ | hfixed
  · rw [ht.resolution, ht.serviceName, ht.tls, tlsFor]
    split
    · next hmutual => simp [hmutual]
    · next hmutual => simp [hmutual]
  · rw [hfixed.serviceName, hfixed.tls]
    simp [hfixed.resolution]

/-- Under mutual TLS a sidecar takes callers of its workload with a certificate only, and every
proxy encrypts exactly the calls to parts of mesh services. Without it nothing is encrypted. -/
theorem mutualTls_leaves_no_gap {mesh : Mesh} {registry : ρ} {store : σ} {node : Node}
    {s : Settings} (h : (settings mesh registry store node).1 = .ok s) :
    (∀ c ∈ s.clusters, (c.resolution = .sds ↔ c.serviceName.isSome = true) ∧
      (c.tls.isSome = true ↔ mesh.isMutualTls = true ∧ c.resolution = .sds)) ∧
    (node.role = .sidecar → ∃ instances services,
      surroundings registry node = .ok (instances, services) ∧
        Encrypted mesh registry node instances services s) := by
  refine ⟨fun c hc => tls_iff_of_mem_clusters h hc, fun hrole => ?_⟩
  rw [settings, hrole] at h
  simp only [sidecarSettings] at h
  split at h
  · cases h
  · next instances services hknown =>
    exact ⟨instances, services, hknown, encrypted_sidecar (of_refuse h)⟩

def mutualTlsMesh : Mesh := { Mesh.default with authPolicy := .mutualTls }

/-- A workload, and a TCP service whose calls would be listened for at its address. -/
def contestedAddress : List Operation := [
  .addService ⟨"reviews.local", none, [⟨"http", 80, .http⟩], none⟩,
  .addService ⟨"ledger.local", some "10.1.1.1", [⟨"tcp", 8080, .tcp⟩], none⟩,
  .addInstance "reviews.local" ⟨"10.1.1.1", 8080, "http", Tags.empty, none, none⟩]

theorem mutualTls_leaves_no_gap_at_contested_address :
    ∃ s, (settings mutualTlsMesh (Registry.Memory.afterOperations contestedAddress)
        (Config.Memory.new Rule.catalog) (.ofSidecar (.v4 10 1 1 1))).1 = .ok s ∧
      (∃ l ∈ s.listeners, l.address = "tcp://10.1.1.1:8080" ∧ l.RequiresCertificate) ∧
      ∀ l ∈ s.listeners, l.address = "tcp://10.1.1.1:8080" → l.RequiresCertificate := by
  have hsound := Registry.Memory.isSound_afterOperations contestedAddress
  have hports : Uniform (inboundPorts (Registry.Memory.afterOperations contestedAddress)
      "10.1.1.1") := by decide
  obtain ⟨s, hs⟩ := (settings_new_succeed_iff hsound mutualTlsMesh Rule.catalog
    (.ofSidecar (.v4 10 1 1 1))).mpr hports
  obtain ⟨-, hsidecar⟩ := mutualTls_leaves_no_gap hs
  obtain ⟨instances, services, hknown, hencrypted⟩ := hsidecar rfl
  have hinstances := (Prod.mk.inj (Except.ok.inj hknown)).1
  have hi : ⟨⟨"10.1.1.1", 8080, ⟨"http", 80, .http⟩⟩,
      ⟨"reviews.local", none, [⟨"http", 80, .http⟩], none⟩, Tags.empty, none, none⟩ ∈
        instances := by
    rw [← hinstances]
    decide
  exact ⟨s, hs, hencrypted.workload rfl _ hi rfl,
    hencrypted.alone rfl _ hi rfl (by decide)⟩

end Build

end MeshControl
