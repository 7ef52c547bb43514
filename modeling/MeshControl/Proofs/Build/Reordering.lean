import MeshControl.Proofs.Build.Closure
import MeshControl.Proofs.Build.RuleAdded
import MeshControl.Proofs.Build.SharedSuffix
import MeshControl.Proofs.Proxy.Order

/-!
The order in which instances were registered. A sidecar asks for the instances on its address and
for the identities of those that it calls. Rules, shared labels, health checks and identities need
only know which instances there are. Listeners and clusters are made one for each instance, and the
first of an address or a name is kept, so here the instances have to be apart: with different ports
none is in the way of another.
-/
namespace MeshControl.Build

open Proxy Registry Config

/-! ### Questions that have no order -/

variable {instances instances' : List Instance}

section Instances

variable (h : instances.Perm instances')

include h

theorem suffixOf_perm : suffixOf instances = suffixOf instances' :=
  commonSuffix_perm ((h.map _).map labels)

theorem fromSource_perm (rules : List RouteRule) :
    Rule.fromSource instances rules = Rule.fromSource instances' rules := by
  have happlies : Rule.appliesFrom instances = Rule.appliesFrom instances' := by
    funext rule
    rw [Rule.appliesFrom, Rule.appliesFrom]
    cases rule.condition with
    | none => rfl
    | some m => exact h.any_eq
  rw [Rule.fromSource, Rule.fromSource, happlies]

theorem managementInbound_perm (mesh : Mesh) (ip : String) (ports : List Port) :
    managementInbound mesh ip instances ports = managementInbound mesh ip instances' ports := by
  have hserved : ∀ p : Port, instances.any (·.endpoint.port == p.number) =
      instances'.any (·.endpoint.port == p.number) := fun p => h.any_eq
  simp only [managementInbound, hserved]

end Instances

theorem sortedSet_congr {l l' : List String} (h : ∀ a, a ∈ l ↔ a ∈ l') :
    sortedSet l = sortedSet l' := by
  have : Std.Irrefl fun a b : String => a < b := ⟨String.lt_irrefl⟩
  have : Std.Antisymm fun a b : String => a < b :=
    ⟨fun a b hab hba => absurd hba (String.lt_asymm hab)⟩
  exact (pairwise_sortedSet l).eq_of_mem_iff (pairwise_sortedSet l') fun a => by
    rw [mem_sortedSet, mem_sortedSet, h]

/-! ### One listener for each instance -/

theorem firstPerAddress_congr {seen seen' : List String} (h : ∀ a, a ∈ seen ↔ a ∈ seen')
    (ls : List Listener) : firstPerAddress seen ls = firstPerAddress seen' ls := by
  induction ls generalizing seen seen' with
  | nil => rfl
  | cons l ls ih =>
    have hcontains : seen.contains l.address = seen'.contains l.address := by
      rw [Bool.eq_iff_iff, List.contains_iff_mem, List.contains_iff_mem, h]
    have hcons : ∀ a, a ∈ l.address :: seen ↔ a ∈ l.address :: seen' := fun a => by
      rw [List.mem_cons, List.mem_cons, h]
    rw [firstPerAddress, firstPerAddress, hcontains, ih h, ih hcons]

/-- What stands in front at addresses of its own is kept as it is. -/
theorem firstPerAddress_append {seen : List String} {front : List Listener}
    (hnodup : (front.map (·.address)).Nodup) (hnew : ∀ l ∈ front, l.address ∉ seen)
    (back : List Listener) :
    firstPerAddress seen (front ++ back) =
      front ++ firstPerAddress ((front.map (·.address)).reverse ++ seen) back := by
  induction front generalizing seen with
  | nil => rfl
  | cons l front ih =>
    obtain ⟨hhead, htail⟩ := List.nodup_cons.mp hnodup
    obtain ⟨hl, hrest⟩ := List.forall_mem_cons.mp hnew
    have hnew' : ∀ k ∈ front, k.address ∉ l.address :: seen := by
      intro k hk hmem
      rcases List.mem_cons.mp hmem with hsame | hseen
      · exact hhead (List.mem_map.mpr ⟨k, hk, hsame⟩)
      · exact hrest k hk hseen
    rw [List.cons_append, firstPerAddress, if_neg (by simpa using hl), ih htail hnew',
      List.map_cons, List.reverse_cons, List.append_assoc, List.cons_append, List.singleton_append]

theorem firstPerAddress_perm {front front' : List Listener} (h : front.Perm front')
    (hnodup : (front.map (·.address)).Nodup) (back : List Listener) :
    (firstPerAddress [] (front ++ back)).Perm (firstPerAddress [] (front' ++ back)) := by
  have haddresses := h.map Listener.address
  have hsame : firstPerAddress ((front.map (·.address)).reverse ++ []) back =
      firstPerAddress ((front'.map (·.address)).reverse ++ []) back :=
    firstPerAddress_congr
      (fun a => by simp only [List.append_nil, List.mem_reverse, haddresses.mem_iff]) back
  rw [firstPerAddress_append hnodup (fun _ _ => List.not_mem_nil),
    firstPerAddress_append (haddresses.nodup_iff.mp hnodup) (fun _ _ => List.not_mem_nil), hsame]
  exact h.append_right _

theorem sortListeners_perm {ls ks : List Listener} (h : ls.Perm ks)
    (hnamed : ∀ l ∈ ls, l.IsNamed) (hnodup : (ls.map (·.address)).Nodup) :
    sortListeners ls = sortListeners ks := by
  have hsorted := pairwise_name_sortListeners hnamed hnodup
  have hsorted' := pairwise_name_sortListeners (fun k hk => hnamed k (h.mem_iff.mpr hk))
    ((h.map Listener.address).nodup_iff.mp hnodup)
  have hperm : (sortListeners ls).Perm (sortListeners ks) :=
    (List.mergeSort_perm ls _).trans (h.trans (List.mergeSort_perm ks _).symm)
  refine hperm.eq_of_pairwise (fun a b _ _ hab hba => ?_) (List.pairwise_map.mp hsorted)
    (List.pairwise_map.mp hsorted')
  exact absurd hba (String.lt_asymm hab)

/-- Instances with different ports have different listeners and clusters. -/
theorem pairwise_own (mesh : Mesh) (hnodup : (instances.map (·.endpoint.port)).Nodup) :
    (instances.filterMap (instanceInbound? mesh)).Pairwise fun a b =>
      a.1.address ≠ b.1.address ∧ a.2.name ≠ b.2.name := by
  rw [List.pairwise_filterMap]
  refine (List.pairwise_map.mp hnodup).imp fun {i j} hne a ha b hb => ?_
  constructor
  · intro haddress
    rw [(of_instanceInbound? ha).1, (of_instanceInbound? hb).1] at haddress
    exact hne (Listener.addressOf_inj.mp haddress).2
  · intro hname
    rw [cluster_of_instanceInbound? ha, cluster_of_instanceInbound? hb] at hname
    exact hne (inboundName_inj.mp hname)

/-! ### Settings of a reordered registry -/

section Sidecar

variable {ρ : Type} [Directory ρ] (mesh : Mesh) (policy : String → Tags → Option VersionPolicy)
  (node : Node) (services : List Service) (rules : List RouteRule)

/-- The listeners and clusters of the instances come first. -/
theorem sidecar_eq (registry : ρ) (instances : List Instance) :
    let table := outboundRoutes mesh instances services rules
    sidecar mesh registry policy node instances services rules =
      (finishClusters mesh registry policy table
        ((instances.filterMap (instanceInbound? mesh)).map (·.2) ++
          (tcpClusters mesh services ++ (mixerClusters mesh ++
            (managementInbound mesh node.address.text instances
              ((Directory.managementPorts registry node.address.text).getD [])).map
                (·.2))))).map fun clusters =>
        ⟨sortListeners (firstPerAddress [] (workloadListeners mesh node table instances ++
            (outwardListeners mesh node table services ++
              checkListeners mesh registry node instances))) ++ [virtualListener mesh],
          clusters, table⟩ := by
  simp only [sidecar, workloadListeners, outwardListeners, checkListeners, List.map_append,
    List.append_assoc]

/-- The clusters of routes are called otherwise than those of instances. -/
theorem name_ne_of_mem_own {c d : Cluster}
    (hc : c ∈ (instances.filterMap (instanceInbound? mesh)).map (·.2))
    (hd : d ∈ (outboundRoutes mesh instances services rules).clusters) : d.name ≠ c.name := by
  have hout : d.name.toList.head? = some 'o' :=
    head_of_mem_outbound (List.mem_append.mpr (mem_outbound_clusters.mp (.inl hd)))
  have hin : c.name.toList.head? = some 'i' := by
    obtain ⟨⟨l, c⟩, hmem, rfl⟩ := List.mem_map.mp hc
    obtain ⟨i, -, hi⟩ := List.mem_filterMap.mp hmem
    rw [cluster_of_instanceInbound? hi]
    exact head_inboundCluster mesh _ _
  intro hname
  rw [hname, hin] at hout
  exact absurd hout (by decide)

theorem finishClusters_perm {r q : ρ} (haccounts : Directory.accounts r = Directory.accounts q)
    {table : RouteTable} {own own' : List Cluster} (h : own.Perm own')
    (hnodup : (own.map (·.name)).Nodup)
    (hnew : ∀ c ∈ own, ∀ d ∈ table.clusters, d.name ≠ c.name) (back : List Cluster) :
    finishClusters mesh r policy table (own ++ back) =
      finishClusters mesh q policy table (own' ++ back) := by
  have htls : applyClientTls mesh r = applyClientTls mesh q := by
    funext c
    rw [applyClientTls, applyClientTls, haccounts]
  rw [finishClusters, finishClusters, Cluster.distinct_perm back h hnodup hnew, htls]

theorem sidecar_perm {r q : ρ} (haccounts : Directory.accounts r = Directory.accounts q)
    (hports : Directory.managementPorts r = Directory.managementPorts q)
    (h : instances.Perm instances') (hnodup : (instances.map (·.endpoint.port)).Nodup) :
    sidecar mesh r policy node instances services rules =
      sidecar mesh q policy node instances' services rules := by
  have htable : outboundRoutes mesh instances services rules =
      outboundRoutes mesh instances' services rules := by
    rw [outboundRoutes, outboundRoutes, suffixOf_perm h]
  have hown := h.filterMap (instanceInbound? mesh)
  have hapart := pairwise_own mesh hnodup
  have hclusters : (((instances.filterMap (instanceInbound? mesh)).map (·.2)).map
      (·.name)).Nodup := by
    rw [List.map_map]
    exact List.pairwise_map.mpr (hapart.imp And.right)
  have hchecks : checkListeners mesh r node instances = checkListeners mesh q node instances' := by
    rw [checkListeners, checkListeners, managementInbound_perm h, hports]
  have hlisteners : ∀ table, sortListeners (firstPerAddress []
        (workloadListeners mesh node table instances ++
          (outwardListeners mesh node table services ++ checkListeners mesh r node instances))) =
      sortListeners (firstPerAddress []
        (workloadListeners mesh node table instances' ++
          (outwardListeners mesh node table services ++
            checkListeners mesh q node instances'))) := by
    intro table
    have haddresses : ((workloadListeners mesh node table instances).map (·.address)).Nodup := by
      rw [workloadListeners, List.map_map, List.map_map]
      refine List.pairwise_map.mpr (hapart.imp fun hab => ?_)
      simpa only [Function.comp_apply, address_insertFilters] using hab.1
    rw [← hchecks]
    exact sortListeners_perm
      (firstPerAddress_perm ((hown.map _).map _) haddresses _)
      (fun l hl => (purpose_of_mem (mem_of_mem_firstPerAddress hl)).isNamed)
      (nodup_address_firstPerAddress _ _)
  rw [sidecar_eq, sidecar_eq, ← htable, hlisteners, managementInbound_perm h, hports,
    finishClusters_perm mesh policy haccounts (hown.map _) hclusters
      fun c hc d hd => name_ne_of_mem_own mesh services rules hc hd]

end Sidecar

/-- Two registries hold the same, but for the order in which instances were registered. -/
structure SameUpToOrder (r q : Registry.Memory) : Prop where
  services : r.services = q.services
  instances : r.instances.Perm q.instances
  managementPorts : r.managementPorts = q.managementPorts

theorem SameUpToOrder.accounts {r q : Registry.Memory} (h : SameUpToOrder r q) :
    Directory.accounts r = Directory.accounts q := by
  funext hostname ports
  have hfound := (h.instances.filter (Registry.Memory.serves hostname ports [])).filterMap
    (·.account)
  exact sortedSet_congr fun _ => hfound.mem_iff

/-- What a sidecar is told, or why it is refused, is the same in whatever order instances were
registered, if those on its address have different ports. -/
theorem settings_eq_of_sameUpToOrder {σ : Type} [Store σ] {r q : Registry.Memory}
    (h : SameUpToOrder r q) (mesh : Mesh) (store : σ) {node : Node} (hrole : node.role = .sidecar)
    (hports : ((r.instancesAt [node.address.text]).map (·.endpoint.port)).Nodup) :
    settings mesh r store node = settings mesh q store node := by
  have hperm : (r.instancesAt [node.address.text]).Perm (q.instancesAt [node.address.text]) :=
    h.instances.filter _
  have hmanaged : Directory.managementPorts r = Directory.managementPorts q := by
    funext address
    change r.managementPorts.find? address = q.managementPorts.find? address
    rw [h.managementPorts]
  have hfound : surroundings r node =
      .ok (r.instancesAt [node.address.text], r.services.values) := rfl
  have hfound' : surroundings q node =
      .ok (q.instancesAt [node.address.text], q.services.values) := rfl
  rw [settings, settings, hrole]
  simp only [sidecarSettings, hfound, hfound', ← fromSource_perm hperm, ← h.services,
    sidecar_perm mesh _ node _ _ h.accounts hmanaged hperm hports]

def reviewsAtCaller : Operation :=
  .addInstance "reviews.local" ⟨"10.1.1.1", 8080, "http", Tags.empty, none, some "spiffe://reviews"⟩

def ratingsAtCaller : Operation :=
  .addInstance "ratings.local" ⟨"10.1.1.1", 8081, "http", Tags.empty, none, none⟩

def canaryElsewhere : Operation :=
  .addInstance "reviews.local" ⟨"10.1.1.2", 8080, "http", Tags.empty, none, some "spiffe://canary"⟩

def reviewsFirst : Registry.Memory :=
  .afterOperations (reviewsAndRatings 9080 ++ [reviewsAtCaller, canaryElsewhere, ratingsAtCaller])

def ratingsFirst : Registry.Memory :=
  .afterOperations (reviewsAndRatings 9080 ++ [ratingsAtCaller, canaryElsewhere, reviewsAtCaller])

/-- Two workloads behind one sidecar, the one before the other and the other way round. -/
theorem settings_reviewsFirst_eq_ratingsFirst :
    reviewsFirst.instances ≠ ratingsFirst.instances ∧
      (∃ s, (settings mutualTlsMesh reviewsFirst (Config.Memory.new Rule.catalog) caller).1 =
        .ok s) ∧
      settings mutualTlsMesh reviewsFirst (Config.Memory.new Rule.catalog) caller =
        settings mutualTlsMesh ratingsFirst (Config.Memory.new Rule.catalog) caller := by
  have hsame : SameUpToOrder reviewsFirst ratingsFirst :=
    ⟨by decide +kernel, by decide +kernel, by decide +kernel⟩
  have huniform : Uniform (inboundPorts reviewsFirst caller.address.text) := by decide +kernel
  exact ⟨by decide +kernel,
    (settings_new_succeed_iff (Registry.Memory.isSound_afterOperations _) _ _ caller).mpr huniform,
    settings_eq_of_sameUpToOrder hsame mutualTlsMesh _ rfl (by decide +kernel)⟩

end MeshControl.Build
