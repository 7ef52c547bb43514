import MeshControl.Proofs.Build.Finished
import MeshControl.Proofs.Build.RuleAdded
import MeshControl.Proofs.Discovery.Traffic
import MeshControl.Proofs.ServiceKey

/-!
What proxies are told when they ask for the hosts of their clusters. The key of a cluster is read
back from the path of the request, and the instances that it names are those of its part of the
service. A slash is the one character of tags that paths cannot carry: where one stands in the
tags of a cluster, the request for its hosts goes to no endpoint.
-/
namespace MeshControl

namespace Tags

/-- Whether a character stands in one of the keys or values. -/
def holds (c : Char) (t : Tags) : Bool :=
  t.toList.any fun (k, v) => k.toList.contains c || v.toList.contains c

theorem mem_text_iff {t : Tags} {c : Char} (heq : c ≠ '=') (hcomma : c ≠ ',') :
    c ∈ t.text.toList ↔ t.holds c = true := by
  rw [mem_text_iff_exists hcomma]
  simp [holds, mem_pairText_iff heq]

end Tags

namespace Proxy.Subset

variable {t : Subset}

/-- What is written of a part of a service. -/
theorem key_eq (t : Subset) :
    t.key =
      if t.tags = Tags.empty then
        if t.port.name = "" then t.hostname else t.hostname ++ ":" ++ t.port.name
      else t.hostname ++ ":" ++ t.port.name ++ ":" ++ t.tags.text := by
  have hnames : ServiceKey.portNames [t.port.name] = [t.port.name] := List.mergeSort_singleton _
  rw [key, ServiceKey.encode_eq, hnames, ServiceKey.conditions_eq]
  by_cases htags : t.tags = Tags.empty
  · simp [htags, Tags.sortTexts, Text.join]
  · simp [htags, Tags.sortTexts, Text.join]

/-- Whether an instance is one of a part of a service. -/
def covers (t : Subset) (i : Instance) : Bool :=
  i.service.hostname == t.hostname && i.endpoint.servicePort.name == t.port.name &&
    t.tags.subsetOf i.tags

/-- Reading the key of a part gives its service, its port and its tags, if it has any. -/
theorem parse_key (h : t.IsChecked) :
    ServiceKey.parse t.key =
      ⟨t.hostname, [t.port.name], if t.tags = Tags.empty then [] else [t.tags]⟩ := by
  have hhostname : ':' ∉ t.hostname.toList := h.notMem_hostname (by decide) (by decide)
  have hports : ∀ p ∈ [t.port.name], ':' ∉ p.toList ∧ ',' ∉ p.toList := by
    rw [List.forall_mem_singleton]
    exact ⟨h.notMem_port (by decide), h.notMem_port (by decide)⟩
  have htags : ∀ u ∈ [t.tags], u.validate = [] := List.forall_mem_singleton.mpr h.tags
  have hnames : ServiceKey.portNames [t.port.name] = [t.port.name] := List.mergeSort_singleton _
  rw [key, ServiceKey.parse_encode hhostname hports htags, hnames, ServiceKey.conditions_eq]
  by_cases hempty : t.tags = Tags.empty
  · simp [hempty, Tags.sortByText]
  · simp [hempty, Tags.sortByText]

/-- Of what a key is made of only the tags may hold a slash. -/
theorem slash_mem_key_iff (h : t.IsChecked) :
    '/' ∈ t.key.toList ↔ t.tags.holds '/' = true := by
  have hhostname : '/' ∉ t.hostname.toList := h.notMem_hostname (by decide) (by decide)
  have hport : '/' ∉ t.port.name.toList := h.notMem_port (by decide)
  rw [key_eq, ← Tags.mem_text_iff (by decide) (by decide)]
  split
  · next hempty =>
    rw [hempty, Tags.text_of_isEmpty rfl]
    split <;> simp [hhostname, hport]
  · simp [hhostname, hport]

end Proxy.Subset

namespace Registry

/-- The key of a part of a service names exactly the instances that the part covers. -/
theorem Memory.instancesOf_key (registry : Memory) {t : Proxy.Subset} (h : t.IsChecked) :
    let k := ServiceKey.parse t.key
    registry.instancesOf k.hostname k.ports k.tags = registry.instances.filter t.covers := by
  intro k
  have hk : k = ⟨t.hostname, [t.port.name], if t.tags = Tags.empty then [] else [t.tags]⟩ :=
    Proxy.Subset.parse_key h
  rw [hk, instancesOf]
  refine List.filter_congr fun i _ => ?_
  have htags : TagsList.hasSubsetOf (if t.tags = Tags.empty then [] else [t.tags]) i.tags =
      t.tags.subsetOf i.tags := by
    split
    · next hempty =>
      rw [hempty]
      rfl
    · simp [TagsList.hasSubsetOf]
  rw [Bool.eq_iff_iff]
  simp [serves, Proxy.Subset.covers, htags]

end Registry

namespace Build

open Proxy Registry

theorem sidecar_of_settings {mesh : Mesh} {registry : Registry.Memory} {store : Config.Memory}
    {node : Node} (hrole : node.role = .sidecar) {s : Settings}
    (h : (settings mesh registry store node).1 = .ok s) :
    sidecar mesh registry (Rule.versionPolicy? store) node
      (registry.instancesAt [node.address.text]) registry.services.values
      (sidecarRules registry store node) = .ok s := by
  rw [settings, hrole] at h
  exact of_refuse h

/-- The parts of services behind finished clusters have been checked. -/
theorem standsFor_checked_or_isFixed {mesh : Mesh} {registry : Registry.Memory}
    (hr : registry.IsSound) {store : Config.Memory} (hstore : StoreChecked store) {node : Node}
    {s : Settings} (h : (settings mesh registry store node).1 = .ok s) {c : Cluster}
    (hc : c ∈ s.clusters) :
    (∃ t, t.IsChecked ∧ StandsFor mesh registry c t) ∨ c.IsFixed := by
  cases hrole : node.role with
  | sidecar =>
    obtain ⟨t, ht, hstands⟩ | hfixed := mem_clusters_sidecar (sidecar_of_settings hrole h) hc
    · exact .inl ⟨t, isChecked_sidecarTargets hr (hstore.sidecarRules node) ht, hstands⟩
    · exact .inr hfixed
  | ingress =>
    obtain ⟨routes, hroutes, hclusters⟩ := clusters_edgeRoutes mesh registry
      (edgeRules (Rule.routeRules store).1) (Rule.ingressRules store).1
    have hthreaded : edgeRoutes mesh registry (edgeRules (Rule.routeRules store).1)
        (Rule.ingressRules (Rule.routeRules store).2).1 = .ok routes := hroutes
    rw [settings, hrole] at h
    simp only [ingressSettings, hthreaded] at h
    obtain ⟨t, ht, hstands⟩ | hfixed :=
      mem_clusters_ingress (exists_target_of_edgeRoutes hroutes) (of_refuse h) hc
    · rw [hclusters] at ht
      obtain ⟨t', ht', heq⟩ := List.mem_map.mp ht
      obtain rfl := targetCluster_inj.mp heq
      exact .inl ⟨t', hstore.edgeTargets hr ht', hstands⟩
    · exact .inr hfixed
  | egress =>
    rw [settings, hrole] at h
    have hegress : egress mesh registry.services.values = .ok s := of_refuse h
    exact .inr (isFixed_of_mem_egress hegress hc)

end Build

namespace Discovery

open Proxy Registry Build

theorem Endpoint.ofPath?_registration (key : String) :
    ofPath? ("/v1/registration/" ++ key) =
      if '/' ∈ key.toList then none else some (.registration key) := by
  have hdrop : Text.dropLeading '/' ("/v1/registration/" ++ key) =
      String.ofList ("v1".toList ++ '/' :: ("registration".toList ++ '/' :: key.toList)) := by
    simp [Text.dropLeading]
  rw [ofPath?, hdrop, Text.split, String.toList_ofList, Text.pieces_append_cons (by decide),
    Text.pieces_append_cons (by decide)]
  by_cases hslash : '/' ∈ key.toList
  · obtain ⟨p, q, ps, hpieces⟩ := Text.pieces_of_mem hslash
    simp [hpieces, hslash]
  · simp [Text.pieces_of_notMem hslash, hslash]

namespace Service

variable {ρ σ : Type} [Directory ρ] [Config.Store σ]

/-- A service that has kept nothing tells what the registry knows of a key. -/
theorem response_registration (caching : Bool) (mesh : Mesh) (registry : ρ) (store : σ)
    {path key : String} (hpath : Endpoint.ofPath? path = some (.registration key)) :
    ((new caching).handle mesh registry store "GET" path).1 =
      match hosts registry key with
      | .ok instances => jsonText (hostsJson instances).pretty
      | .error e => refusal e := by
  have hlookup : (new caching).lookup path (Endpoint.registration key).label =
      (.pending 0, new caching) := by
    cases caching <;> rfl
  rw [handle, handleWhile, admission]
  simp only [ne_eq, not_true_eq_false, if_false, hpath, hlookup, respond]
  cases hosts registry key <;> rfl

theorem response_of_unknown (s : Service) (mesh : Mesh) (registry : ρ) (store : σ) {path : String}
    (hpath : Endpoint.ofPath? path = none) :
    (s.handle mesh registry store "GET" path).1 = .plain 404 s!"unknown path {path}\n" := by
  rw [handle, handleWhile, admission]
  simp [hpath]

end Service

/-- A cluster that is found by discovery stands for a part of a service. The request under its key
is answered with exactly the instances that the part covers, in the order of the registry, unless
a slash stands in the tags; then it is no path that is known. -/
theorem hosts_of_cluster (mesh : Mesh) (ops : List Operation) (calls : List Config.Call)
    (caching : Bool) {node : Node} {s : Settings} {c : Cluster} {key : String} :
    let registry := Registry.Memory.afterOperations ops
    let store := Config.afterCalls (Config.Memory.new Rule.catalog) calls
    let path := "/v1/registration/" ++ key
    (settings mesh registry store node).1 = .ok s → c ∈ s.clusters → c.serviceName = some key →
      ∃ t, c.subset = some t ∧
        ((Service.new caching).handle mesh registry store "GET" path).1 =
          if t.tags.holds '/' then .plain 404 s!"unknown path {path}\n"
          else .json 200 (hostsJson (registry.instances.filter t.covers)) := by
  intro registry store path hsettings hc hkey
  have hr : registry.IsSound := Registry.Memory.isSound_afterOperations ops
  have hstore : StoreChecked store :=
    storeChecked_of_accepted (Config.Memory.catalog_afterCalls _ calls)
      (Config.Memory.allAccepted_afterCalls Rule.catalog calls)
  obtain ⟨t, ht, hstands⟩ | hfixed := standsFor_checked_or_isFixed hr hstore hsettings hc
  · obtain rfl : t.key = key := Option.some.inj (hstands.serviceName.symm.trans hkey)
    refine ⟨t, hstands.subset, ?_⟩
    have hpath : Endpoint.ofPath? path =
        if t.tags.holds '/' = true then none else some (.registration t.key) := by
      rw [show path = "/v1/registration/" ++ t.key from rfl, Endpoint.ofPath?_registration]
      simp only [Subset.slash_mem_key_iff ht]
    split
    · next hslash =>
      rw [if_pos hslash] at hpath
      exact Service.response_of_unknown _ mesh registry store hpath
    · next hslash =>
      rw [if_neg hslash] at hpath
      rw [Service.response_registration caching mesh registry store hpath]
      have hhosts : hosts registry t.key = .ok (registry.instances.filter t.covers) :=
        congrArg Except.ok (Registry.Memory.instancesOf_key registry ht)
      rw [hhosts]
      rfl
  · rw [hfixed.serviceName] at hkey
    cases hkey

/-! ### One version of a service -/

/-- A service with one instance, of a version. -/
def reviewsOf (version : String) : List Operation := [
  .addService ⟨"reviews.local", none, [⟨"http", 80, .http⟩], none⟩,
  .addInstance "reviews.local"
    ⟨"10.1.1.1", 8080, "http", Tags.ofList [("version", version)], none, none⟩]

/-- A rule that sends all requests to a version. -/
def toVersion (version : String) : Config.Message := ⟨"pilot.v1.RouteRule", .obj [
  ("destination", .str "reviews.local"), ("name", .str "to-version"),
  ("route", .arr [.obj [("tags", .obj [("version", .str version)]), ("weight", .int 100)]])]⟩

def toVersionRule (version : String) : RouteRule where
  name := "to-version"
  destination := "reviews.local"
  precedence := 0
  condition := none
  routes := [⟨none, Tags.ofList [("version", version)], 100⟩]
  timeout := none
  retries := none
  requestFault := none
  connectionFault := none

def versionOf (version : String) : Subset :=
  ⟨"reviews.local", ⟨"http", 80, .http⟩, Tags.ofList [("version", version)]⟩

def shopOf (version : String) : Registry.Memory := .afterOperations (reviewsOf version)

def withToVersion (version : String) : Config.Memory :=
  Config.afterCalls (Config.Memory.new Rule.catalog) [.post (toVersion version)]

theorem key_versionOf {version : String} (hsome : version ≠ "") :
    (versionOf version).key = "reviews.local:http:version=" ++ version := by
  have htags : (versionOf version).tags ≠ Tags.empty := by
    intro hempty
    cases congrArg Tags.toList hempty
  have htext : (versionOf version).tags.text = "version=" ++ version := by
    have hpair : Tags.pairText ("version", version) = "version=" ++ version := by
      simp [Tags.pairText, String.isEmpty_iff, hsome]
    rw [Tags.text, show (versionOf version).tags.toList = [("version", version)] from rfl,
      List.map_singleton, hpair, Tags.sortTexts, List.mergeSort_singleton]
    rfl
  rw [Subset.key_eq, if_neg htags, htext]
  simp [versionOf, ← String.append_assoc]

/-- The rule is followed, so the version has a cluster. -/
theorem exists_cluster_of_version {version : String} (hsome : version ≠ "")
    (hrules : sidecarRules (shopOf version) (withToVersion version) caller =
      [toVersionRule version])
    (hservices : (shopOf version).services.values =
      [⟨"reviews.local", none, [⟨"http", 80, .http⟩], none⟩])
    (hports : Uniform (inboundPorts (shopOf version) caller.address.text)) :
    ∃ s c, (settings default (shopOf version) (withToVersion version) caller).1 = .ok s ∧
      c ∈ s.clusters ∧ c.subset = some (versionOf version) ∧
      c.serviceName = some ("reviews.local:http:version=" ++ version) := by
  have htargets : sidecarTargets (shopOf version).services.values
      (sidecarRules (shopOf version) (withToVersion version) caller) = [versionOf version] := by
    rw [hrules, hservices]
    rfl
  have hsound : (shopOf version).IsSound := Registry.Memory.isSound_afterOperations _
  have hchecked : StoreChecked (withToVersion version) :=
    storeChecked_of_accepted (Config.Memory.catalog_afterCalls _ _)
      (Config.Memory.allAccepted_afterCalls Rule.catalog [.post (toVersion version)])
  have hsettings : ∃ s,
      (settings default (shopOf version) (withToVersion version) caller).1 = .ok s := by
    rw [settings_succeed_iff hsound default hchecked caller, targets_of_sidecar _ _ rfl, htargets]
    refine ⟨?_, fun t _ e he => absurd he List.not_mem_nil, hports⟩
    simp [Subset.Clashes]
  obtain ⟨s, hs⟩ := hsettings
  have ht : versionOf version ∈ sidecarTargets (shopOf version).services.values
      (sidecarRules (shopOf version) (withToVersion version) caller) := by
    rw [htargets]
    exact List.mem_singleton_self _
  obtain ⟨c, hc, hstands⟩ := exists_mem_clusters_sidecar (sidecar_of_settings rfl hs) ht
  exact ⟨s, c, hs, hc, hstands.subset, hstands.serviceName.trans (key_versionOf hsome ▸ rfl)⟩

def versionInstance (version : String) : Instance :=
  ⟨⟨"10.1.1.1", 8080, ⟨"http", 80, .http⟩⟩, ⟨"reviews.local", none, [⟨"http", 80, .http⟩], none⟩,
    Tags.ofList [("version", version)], none, none⟩

theorem hosts_of_cluster_of_version :
    ∃ s c, (settings default (shopOf "v1") (withToVersion "v1") caller).1 = .ok s ∧
      c ∈ s.clusters ∧ c.serviceName = some "reviews.local:http:version=v1" ∧
      ((Service.new true).handle default (shopOf "v1") (withToVersion "v1") "GET"
        "/v1/registration/reviews.local:http:version=v1").1 =
          .json 200 (hostsJson [versionInstance "v1"]) := by
  have hrules : sidecarRules (shopOf "v1") (withToVersion "v1") caller = [toVersionRule "v1"] :=
    List.mergeSort_singleton _
  obtain ⟨s, c, hs, hc, hsubset, hkey⟩ :=
    exists_cluster_of_version (by decide) hrules rfl (by decide +kernel)
  obtain ⟨t, ht, hresponse⟩ := hosts_of_cluster default (reviewsOf "v1") [.post (toVersion "v1")]
    true hs hc hkey
  obtain rfl := Option.some.inj (hsubset.symm.trans ht)
  refine ⟨s, c, hs, hc, hkey, hresponse.trans ?_⟩
  have hinstances : (shopOf "v1").instances.filter (versionOf "v1").covers =
      [versionInstance "v1"] := by decide
  rw [if_neg (by decide), ← hinstances]
  rfl

/-- A version may have a slash in its name. Its cluster cannot be asked for. -/
theorem hosts_of_cluster_lost_at_slash :
    ∃ s c, (settings default (shopOf "a/b") (withToVersion "a/b") caller).1 = .ok s ∧
      c ∈ s.clusters ∧ c.serviceName = some "reviews.local:http:version=a/b" ∧
      versionInstance "a/b" ∈ (shopOf "a/b").instances ∧
      (versionOf "a/b").covers (versionInstance "a/b") = true ∧
      ((Service.new true).handle default (shopOf "a/b") (withToVersion "a/b") "GET"
        "/v1/registration/reviews.local:http:version=a/b").1.status = 404 := by
  have hrules : sidecarRules (shopOf "a/b") (withToVersion "a/b") caller = [toVersionRule "a/b"] :=
    List.mergeSort_singleton _
  obtain ⟨s, c, hs, hc, -, hkey⟩ :=
    exists_cluster_of_version (by decide) hrules rfl (by decide +kernel)
  refine ⟨s, c, hs, hc, hkey, by decide, by decide, ?_⟩
  rw [Service.response_of_unknown _ _ _ _ (by decide)]
  rfl

end Discovery

end MeshControl
