import Mathlib.Data.List.Pairwise
import MeshControl.Proofs.Build.Exposure
import MeshControl.Proofs.Build.Handover
import MeshControl.Proofs.Build.RuleAdded

/-!
Whether the domains of a route configuration tell its virtual hosts apart. An ingress proxy has one
virtual host for each authority, so there they always do. The other proxies have one for each port
of a service, and what makes two of them share a domain is said exactly: two ports of a service with
one number, or, for sidecars, a name of one service that is also a name of another, be it a
shortened hostname or an address.
-/
namespace MeshControl

/-! ### Lists without repetitions -/

/-- Several copies of a list have no repetitions only if there is at most one. -/
theorem nodup_flatMap_const_iff {α β : Type} {l : List β} {m : List α} (hm : m ≠ []) :
    (l.flatMap fun _ => m).Nodup ↔ l.length ≤ 1 ∧ (l ≠ [] → m.Nodup) := by
  match l with
  | [] => simp
  | [b] => simp
  | b :: c :: l =>
    obtain ⟨a, ha⟩ := List.exists_mem_of_ne_nil m hm
    refine iff_of_false (fun hnodup => ?_) (fun hlength => by simp at hlength)
    rw [List.flatMap_cons, List.flatMap_cons, List.nodup_append] at hnodup
    exact hnodup.2.2 a ha a (List.mem_append_left _ ha) rfl

/-- Different elements have to make lists that are apart. -/
theorem nodup_flatMap_iff_of_nodup {α β : Type} {f : α → List β} {l : List α} (h : l.Nodup) :
    (l.flatMap f).Nodup ↔
      (∀ a ∈ l, (f a).Nodup) ∧ ∀ a ∈ l, ∀ b ∈ l, a ≠ b → List.Disjoint (f a) (f b) := by
  have : Std.Symm (Function.onFun List.Disjoint f) := ⟨fun _ _ hab _ hb ha => hab ha hb⟩
  rw [List.nodup_flatMap]
  exact and_congr_right fun _ =>
    ⟨fun hpairs _ ha _ hb hne => hpairs.forall ha hb hne, h.pairwise_of_forall_ne⟩

namespace Proxy

/-- All domains of a configuration, as often as they are listed. -/
def RouteConfig.domains (c : RouteConfig) : List String := c.hosts.flatMap (·.domains)

theorem RouteConfig.nodup_domains_ofHosts_iff {hosts : List VirtualHost} :
    (ofHosts hosts).domains.Nodup ↔ (hosts.flatMap (·.domains)).Nodup :=
  ((List.mergeSort_perm hosts _).flatMap_right _).nodup_iff

end Proxy

namespace Registry.Memory

theorem nodup_services {r : Memory} (h : r.IsSound) : r.services.values.Nodup := by
  have hkeys : ∀ e ∈ r.services.toList, e.2.hostname = e.1 := by
    rintro ⟨k, s⟩ he
    exact (h k s ((r.services.mem_toList_iff k s).mp he)).1
  have hsorted : r.services.toList.Pairwise fun a b => a.1 < b.1 := r.services.sorted
  refine List.pairwise_map.mpr (hsorted.imp_of_mem fun {a b} ha hb hlt heq => ?_)
  have hsame : a.1 = b.1 := by rw [← hkeys a ha, ← hkeys b hb, heq]
  exact String.ne_of_lt hlt hsame

end Registry.Memory

namespace Build

open Proxy Registry Config

variable {ρ σ : Type} [Directory ρ] [Store σ]

/-! ### Names with and without a port -/

theorem ported_ne (host : String) (number : Nat) : s!"{host}:{number}" ≠ host := by
  intro h
  have hlength := congrArg (fun s : String => s.toList.length) h
  simp only [toList_ported, List.length_append, List.length_cons] at hlength
  omega

theorem nodup_withPort (number : Nat) (host : String) : (withPort number host).Nodup := by
  rw [withPort]
  split
  · exact List.nodup_cons.mpr ⟨by simpa using ported_ne host number, List.nodup_singleton _⟩
  · exact List.nodup_singleton _

/-- Under one number names are told apart, but for a name that another makes with its port. -/
theorem nodup_withPort_names_iff {number : Nat} {names : List String} :
    (names.flatMap (withPort number)).Nodup ↔
      names.Nodup ∧ (number = 80 → ∀ a ∈ names, ∀ b ∈ names, a ≠ s!"{b}:{80}") := by
  have hdisjoint : ∀ a b, List.Disjoint (withPort number a) (withPort number b) ↔
      a ≠ b ∧ (number = 80 → a ≠ s!"{b}:{80}" ∧ b ≠ s!"{a}:{80}") := by
    intro a b
    simp only [List.disjoint_iff_ne, mem_withPort]
    constructor
    · intro h
      refine ⟨fun heq => h _ (.inl rfl) _ (.inl (by rw [heq])) rfl, fun hnumber => ?_⟩
      subst hnumber
      exact ⟨fun heq => h _ (.inr ⟨rfl, rfl⟩) _ (.inl rfl) heq,
        fun heq => h _ (.inl rfl) _ (.inr ⟨rfl, rfl⟩) heq.symm⟩
    · rintro ⟨hne, hbare⟩ _ (rfl | ⟨rfl, rfl⟩) _ (rfl | ⟨hnumber, rfl⟩)
      · rw [Ne, ported_inj]
        exact fun heq => hne heq.1
      · subst hnumber
        exact (hbare rfl).2.symm
      · exact (hbare rfl).1
      · exact hne
  constructor
  · intro h
    have hnodup : names.Nodup :=
      (List.nodup_flatMap.mp h).2.imp fun {a b} hab => ((hdisjoint a b).mp hab).1
    refine ⟨hnodup, fun hnumber a ha b hb => ?_⟩
    by_cases heq : a = b
    · subst heq
      exact (ported_ne a 80).symm
    · have hapart := ((nodup_flatMap_iff_of_nodup hnodup).mp h).2 a ha b hb heq
      exact (((hdisjoint a b).mp hapart).2 hnumber).1
  · rintro ⟨hnodup, hbare⟩
    refine (nodup_flatMap_iff_of_nodup hnodup).mpr ⟨fun a _ => nodup_withPort number a, ?_⟩
    intro a ha b hb hne
    exact (hdisjoint a b).mpr
      ⟨hne, fun hnumber => ⟨hbare hnumber a ha b hb, hbare hnumber b hb a ha⟩⟩

/-- Under one name numbers are told apart. -/
theorem nodup_withPort_numbers_iff {host : String} {numbers : List Nat} :
    (numbers.flatMap (withPort · host)).Nodup ↔ numbers.Nodup := by
  have hdisjoint : ∀ m n, List.Disjoint (withPort m host) (withPort n host) ↔ m ≠ n := by
    intro m n
    simp only [List.disjoint_iff_ne, mem_withPort]
    constructor
    · rintro h rfl
      exact h _ (.inl rfl) _ (.inl rfl) rfl
    · rintro hne _ (rfl | ⟨rfl, rfl⟩) _ (rfl | ⟨rfl, rfl⟩)
      · rw [Ne, ported_inj]
        exact fun heq => hne heq.2
      · exact ported_ne _ _
      · exact (ported_ne _ _).symm
      · exact absurd rfl hne
  rw [List.nodup_flatMap]
  constructor
  · rintro ⟨-, hpairs⟩
    exact hpairs.imp fun {m n} h => (hdisjoint m n).mp h
  · intro hnodup
    exact ⟨fun n _ => nodup_withPort n host, hnodup.imp fun {m n} h => (hdisjoint m n).mpr h⟩

/-- A hostname has no colon, so its domains tell it. -/
theorem eq_of_mem_withPort {a b domain : String} {m n : Nat} (ha : ':' ∉ a.toList)
    (hb : ':' ∉ b.toList) (h : domain ∈ withPort m a) (h' : domain ∈ withPort n b) : a = b := by
  rcases mem_withPort.mp h with rfl | ⟨-, rfl⟩
  · exact ((ported_mem_withPort_iff hb).mp h').1.symm
  · rcases mem_withPort.mp h' with rfl | ⟨-, rfl⟩
    · rw [toList_ported] at ha
      exact absurd (List.mem_append_right _ List.mem_cons_self) ha
    · rfl

/-! ### What a sidecar lists -/

/-- The numbers of the ports for requests, one for each port. -/
def requestNumbers (s : Service) : List Nat :=
  (s.ports.filter (·.protocol.isHttp)).map (·.number)

/-- The numbers under which a sidecar lists a service. Services outside the mesh are listed only if
there is an egress proxy. -/
def listedNumbers (mesh : Mesh) (s : Service) : List Nat :=
  if s.isExternal && mesh.egressAddress.isNone then [] else requestNumbers s

/-- The names under which a sidecar lists a service. -/
def listedNames (suffix : List String) (s : Service) : List String :=
  hostNames s.hostname suffix ++ s.address.toList

/-- The names of a service under a number, once for each port. -/
def namesOf (mesh : Mesh) (suffix : List String) (number : Nat) (s : Service) : List String :=
  ((listedNumbers mesh s).filter (· = number)).flatMap fun _ => listedNames suffix s

/-- All names that are listed under a number. -/
def namesAt (mesh : Mesh) (suffix : List String) (services : List Service) (number : Nat) :
    List String :=
  services.flatMap (namesOf mesh suffix number)

theorem domains_outboundHosts (mesh : Mesh) (rules : List RouteRule) (suffix : List String)
    (s : Service) :
    (outboundHosts mesh rules suffix s).map (fun e => (e.1, e.2.domains)) =
      (listedNumbers mesh s).map fun n => (n, (listedNames suffix s).flatMap (withPort n)) := by
  rw [outboundHosts, List.map_filterMap, listedNumbers]
  cases hhidden : s.isExternal && mesh.egressAddress.isNone with
  | true =>
    obtain ⟨hexternal, hnone⟩ := Bool.and_eq_true_iff.mp hhidden
    have hroutes : ∀ p, routesTo? mesh rules s p = none := by
      intro p
      rw [routesTo?, if_pos hexternal, egressRoute?, Option.isNone_iff_eq_none.mp hnone]
      rfl
    simp [hroutes]
  | false =>
    have hroutes : ∀ p, ∃ routes, routesTo? mesh rules s p = some routes := by
      intro p
      rw [routesTo?]
      split
      · next hexternal =>
        rw [hexternal, Bool.true_and, Option.isNone_eq_false_iff] at hhidden
        obtain ⟨address, haddress⟩ := Option.isSome_iff_exists.mp hhidden
        rw [egressRoute?, haddress]
        exact ⟨_, rfl⟩
      · exact ⟨_, rfl⟩
    rw [if_neg Bool.false_ne_true, requestNumbers, List.map_map, ← List.filterMap_eq_map]
    refine List.filterMap_congr fun p _ => ?_
    obtain ⟨routes, hp⟩ := hroutes p
    rw [hp]
    rfl

/-- The domains of the virtual hosts of a port are the names listed there, with the port. -/
theorem domains_valuesAt (mesh : Mesh) (rules : List RouteRule) (suffix : List String)
    (services : List Service) (number : Nat) :
    (Entries.valuesAt number (services.flatMap (outboundHosts mesh rules suffix))).flatMap
        (·.domains) = (namesAt mesh suffix services number).flatMap (withPort number) := by
  have hvalues : ∀ l : List (Nat × VirtualHost), (Entries.valuesAt number l).flatMap (·.domains) =
      ((l.map fun e => (e.1, e.2.domains)).filter (·.1 = number)).flatMap (·.2) := by
    intro l
    rw [Entries.valuesAt, List.flatMap_map, List.filter_map, List.flatMap_map]
    rfl
  rw [hvalues, List.map_flatMap, List.filter_flatMap, List.flatMap_assoc, namesAt,
    List.flatMap_assoc]
  refine List.flatMap_congr fun s _ => ?_
  rw [domains_outboundHosts, List.filter_map, List.flatMap_map, namesOf, List.flatMap_assoc]
  refine List.flatMap_congr fun n hn => ?_
  have hnumber : n = number := by simpa using (List.mem_filter.mp hn).2
  rw [hnumber]

theorem nodup_outboundRoutes_iff {mesh : Mesh} {instances : List Instance}
    {services : List Service} {rules : List RouteRule} :
    (∀ e ∈ outboundRoutes mesh instances services rules, e.2.domains.Nodup) ↔
      ∀ number,
        ((namesAt mesh (suffixOf instances) services number).flatMap (withPort number)).Nodup := by
  let hosts := services.flatMap (outboundHosts mesh rules (suffixOf instances))
  have hconfig : ∀ number, (RouteConfig.ofHosts (Entries.valuesAt number hosts)).domains.Nodup ↔
      ((namesAt mesh (suffixOf instances) services number).flatMap (withPort number)).Nodup := by
    intro number
    rw [RouteConfig.nodup_domains_ofHosts_iff, domains_valuesAt]
  constructor
  · intro h number
    rw [← hconfig]
    by_cases hkey : number ∈ Entries.keysOf natLt hosts
    · exact h (number, .ofHosts (Entries.valuesAt number hosts))
        (List.mem_map_of_mem (List.mem_map_of_mem hkey))
    · have hnone : Entries.valuesAt number hosts = [] := List.eq_nil_iff_forall_not_mem.mpr
        fun v hv => hkey (Entries.mem_keysOf.mpr ⟨v, Entries.mem_valuesAt.mp hv⟩)
      rw [RouteConfig.nodup_domains_ofHosts_iff, hnone]
      exact List.nodup_nil
  · intro h e he
    obtain ⟨group, hgroup, rfl⟩ := List.mem_map.mp he
    obtain ⟨number, -, rfl⟩ := List.mem_map.mp hgroup
    exact (hconfig number).mpr (h number)

/-- What it takes for the services that a sidecar lists to be told apart by domain. -/
structure ToldApart (mesh : Mesh) (suffix : List String) (services : List Service) : Prop where
  /-- No service is listed twice under one number. -/
  numbers : ∀ s ∈ services, (listedNumbers mesh s).Nodup
  /-- The address of a service is not also one of its other names. -/
  address : ∀ s ∈ services, listedNumbers mesh s ≠ [] →
    ∀ a ∈ s.address, a ∉ hostNames s.hostname suffix
  /-- Services that are listed under one number share no name. -/
  names : ∀ s ∈ services, ∀ t ∈ services, s ≠ t → ∀ n ∈ listedNumbers mesh s,
    n ∈ listedNumbers mesh t → ∀ name ∈ listedNames suffix s, name ∉ listedNames suffix t
  /-- Under the standard number, where names stand without it too, no address is a name with it. -/
  bare : ∀ s ∈ services, 80 ∈ listedNumbers mesh s → ∀ a ∈ s.address, ∀ t ∈ services,
    80 ∈ listedNumbers mesh t → ∀ name ∈ listedNames suffix t, a ≠ s!"{name}:{80}"

theorem nodup_listedNames_iff {s : Service} (h : s.validate = []) {suffix : List String} :
    (listedNames suffix s).Nodup ↔ ∀ a ∈ s.address, a ∉ hostNames s.hostname suffix := by
  have hnames := nodup_hostNames (Service.fqdn_of_validate h) suffix
  rw [listedNames]
  cases s.address with
  | none => simpa using hnames
  | some a =>
    simp only [Option.toList_some, List.nodup_append, hnames, List.nodup_singleton, true_and,
      List.mem_singleton, forall_eq, Option.mem_some_iff]
    exact ⟨fun h b hb hmem => h b hmem hb.symm, fun h b hb heq => h a rfl (heq ▸ hb)⟩

theorem nodup_copies_iff {numbers : List Nat} {names : List String} (hne : names ≠ []) :
    (∀ number, ((numbers.filter (· = number)).flatMap fun _ => names).Nodup) ↔
      numbers.Nodup ∧ (numbers ≠ [] → names.Nodup) := by
  have hcount : ∀ number, (numbers.filter (· = number)).length = numbers.count number := by
    intro number
    rw [List.count_eq_length_filter]
    rfl
  simp only [nodup_flatMap_const_iff hne, hcount, forall_and, ← List.nodup_iff_count_le_one]
  refine and_congr_right fun _ => ⟨fun h hnumbers => ?_, fun h number hsome => h ?_⟩
  · obtain ⟨n, hn⟩ := List.exists_mem_of_ne_nil numbers hnumbers
    exact h n (List.ne_nil_of_mem (List.mem_filter.mpr ⟨hn, by simp⟩))
  · rintro rfl
    exact hsome rfl

theorem mem_namesOf {mesh : Mesh} {suffix : List String} {number : Nat} {s : Service}
    {name : String} : name ∈ namesOf mesh suffix number s ↔
      number ∈ listedNumbers mesh s ∧ name ∈ listedNames suffix s := by
  simp only [namesOf, List.mem_flatMap, List.mem_filter, decide_eq_true_eq]
  constructor
  · rintro ⟨n, ⟨hn, rfl⟩, hname⟩
    exact ⟨hn, hname⟩
  · rintro ⟨hn, hname⟩
    exact ⟨number, ⟨hn, rfl⟩, hname⟩

theorem mem_namesAt {mesh : Mesh} {suffix : List String} {services : List Service} {number : Nat}
    {name : String} : name ∈ namesAt mesh suffix services number ↔
      ∃ s ∈ services, number ∈ listedNumbers mesh s ∧ name ∈ listedNames suffix s := by
  simp only [namesAt, List.mem_flatMap, mem_namesOf]

/-- A service is listed once under every number. -/
theorem nodup_namesOf_iff {mesh : Mesh} {suffix : List String} {s : Service}
    (h : s.validate = []) : (∀ number, (namesOf mesh suffix number s).Nodup) ↔
      (listedNumbers mesh s).Nodup ∧
        (listedNumbers mesh s ≠ [] → ∀ a ∈ s.address, a ∉ hostNames s.hostname suffix) := by
  have hfqdn := Service.fqdn_of_validate h
  have hne : listedNames suffix s ≠ [] :=
    List.ne_nil_of_mem (List.mem_append_left _ (hostname_mem_hostNames hfqdn suffix))
  simp only [namesOf]
  rw [nodup_copies_iff hne, nodup_listedNames_iff h]

theorem toldApart_of_nodup {mesh : Mesh} {suffix : List String} {services : List Service}
    (hnodup : services.Nodup) (hvalid : ∀ s ∈ services, s.validate = [])
    (h : ∀ number, ((namesAt mesh suffix services number).flatMap (withPort number)).Nodup) :
    ToldApart mesh suffix services := by
  have hparts := fun number =>
    (nodup_flatMap_iff_of_nodup hnodup).mp (nodup_withPort_names_iff.mp (h number)).1
  have hown := fun s hs =>
    (nodup_namesOf_iff (hvalid s hs)).mp fun number => (hparts number).1 s hs
  constructor
  case numbers => exact fun s hs => (hown s hs).1
  case address => exact fun s hs => (hown s hs).2
  case names =>
    intro s hs t ht hst n hn hn' name hname hname'
    exact (hparts n).2 s hs t ht hst (mem_namesOf.mpr ⟨hn, hname⟩) (mem_namesOf.mpr ⟨hn', hname'⟩)
  case bare =>
    intro s hs hn a ha t ht hn' name hname
    have haddress : a ∈ listedNames suffix s := List.mem_append_right _ (Option.mem_toList.mpr ha)
    exact (nodup_withPort_names_iff.mp (h 80)).2 rfl a (mem_namesAt.mpr ⟨s, hs, hn, haddress⟩) name
      (mem_namesAt.mpr ⟨t, ht, hn', hname⟩)

/-- Only an address can look like a name with its port, because hostnames have no colon. -/
theorem ToldApart.nodup {mesh : Mesh} {suffix : List String} {services : List Service}
    (h : ToldApart mesh suffix services) (hnodup : services.Nodup)
    (hvalid : ∀ s ∈ services, s.validate = []) (number : Nat) :
    ((namesAt mesh suffix services number).flatMap (withPort number)).Nodup := by
  have hnames : (namesAt mesh suffix services number).Nodup := by
    refine (nodup_flatMap_iff_of_nodup hnodup).mpr ⟨fun s hs => ?_, ?_⟩
    · exact (nodup_namesOf_iff (hvalid s hs)).mpr ⟨h.numbers s hs, h.address s hs⟩ number
    · intro s hs t ht hst name hname hname'
      obtain ⟨hn, hlisted⟩ := mem_namesOf.mp hname
      obtain ⟨hn', hlisted'⟩ := mem_namesOf.mp hname'
      exact h.names s hs t ht hst number hn hn' name hlisted hlisted'
  refine nodup_withPort_names_iff.mpr ⟨hnames, ?_⟩
  rintro rfl a ha b hb
  obtain ⟨s, hs, hn, ha⟩ := mem_namesAt.mp ha
  obtain ⟨t, ht, hn', hb⟩ := mem_namesAt.mp hb
  rcases List.mem_append.mp ha with hname | haddress
  · have hcolon : ':' ∉ a.toList := notMem_of_mem_hostNames
      (Service.fqdn_of_validate (hvalid s hs)) hname (by decide) (by decide)
    rintro rfl
    rw [toList_ported] at hcolon
    exact hcolon (List.mem_append_right _ List.mem_cons_self)
  · exact h.bare s hs hn a (Option.mem_toList.mp haddress) t ht hn' b hb

theorem toldApart_iff {mesh : Mesh} {suffix : List String} {services : List Service}
    (hnodup : services.Nodup) (hvalid : ∀ s ∈ services, s.validate = []) :
    (∀ number, ((namesAt mesh suffix services number).flatMap (withPort number)).Nodup) ↔
      ToldApart mesh suffix services :=
  ⟨toldApart_of_nodup hnodup hvalid, fun h => h.nodup hnodup hvalid⟩

/-- A hostname that another one is shortened to is listed for both. -/
example : ¬ ToldApart .default ["reviews", "local"]
    [⟨"reviews", none, [⟨"http", 80, .http⟩], none⟩,
      ⟨"reviews.local", none, [⟨"http", 80, .http⟩], none⟩] := fun h =>
  h.names _ (.head _) _ (.tail _ (.head _)) (by decide) 80 (by decide) (by decide) "reviews"
    (by decide) (by decide)

/-! ### Routes that stand in listeners -/

theorem written?_insertFilters (mesh : Mesh) (node : Node) (table : RouteTable) (l : Listener) :
    (insertFilters mesh node table l).written? = l.written? := by
  rw [insertFilters]
  split <;> simp [insertMixer, insertFaults, Listener.written?]

theorem nodup_domains_of_inbound? {mesh : Mesh} {address : String} {port : Nat}
    {protocol : Protocol} {checked : Bool} {l : Listener} {c : Cluster}
    (h : inbound? mesh address port protocol checked = some (l, c)) {config : RouteConfig}
    (hconfig : l.written? = some config) : config.domains.Nodup := by
  obtain ⟨-, -, rfl | rfl⟩ := cases_of_inbound? h
  · obtain rfl := Option.some.inj hconfig
    have hdomains : (inboundRoutes c address port
        (checked && mesh.mixerAddress.isSome)).domains = withPort port address ++ [] := rfl
    rw [hdomains, List.append_nil]
    exact nodup_withPort port address
  · cases hconfig

theorem nodup_domains_of_mem_listeners {mesh : Mesh} {registry : ρ}
    {policy : String → Tags → Option VersionPolicy} {node : Node} {instances : List Instance}
    {services : List Service} {rules : List RouteRule} {s : Settings}
    (h : sidecar mesh registry policy node instances services rules = .ok s) {l : Listener}
    (hl : l ∈ s.listeners) {config : RouteConfig} (hconfig : l.written? = some config) :
    config.domains.Nodup := by
  rcases purpose_of_mem_listeners h hl with hpurpose | rfl
  · cases hpurpose with
    | workload hi hplain =>
      rw [written?_insertFilters] at hconfig
      obtain ⟨plain, hbare, rfl⟩ := exists_plain_of_instanceInbound? hplain
      exact nodup_domains_of_inbound? hbare hconfig
    | requests hport =>
      rw [written?_insertFilters] at hconfig
      cases hconfig
    | connections hplain =>
      rw [written?_insertFilters] at hconfig
      obtain ⟨group, -, rfl⟩ := List.mem_map.mp hplain
      cases hconfig
    | check hcheck =>
      obtain ⟨p, hp⟩ := exists_inbound?_of_mem_checks hcheck
      exact nodup_domains_of_inbound? hp hconfig
  · cases hconfig

/-! ### The roles -/

theorem nodup_domains_sidecar_iff {mesh : Mesh} {registry : ρ}
    {policy : String → Tags → Option VersionPolicy} {node : Node} {instances : List Instance}
    {services : List Service} {rules : List RouteRule} (hnodup : services.Nodup)
    (hvalid : ∀ s ∈ services, s.validate = []) {s : Settings}
    (h : sidecar mesh registry policy node instances services rules = .ok s) :
    (∀ config ∈ s.configs, config.domains.Nodup) ↔
      ToldApart mesh (suffixOf instances) services := by
  rw [← toldApart_iff hnodup hvalid, ← nodup_outboundRoutes_iff, ← routes_sidecar h,
    Settings.configs, List.forall_mem_append, List.forall_mem_map]
  refine and_iff_left fun config hconfig => ?_
  obtain ⟨l, hl, hwritten⟩ := List.mem_filterMap.mp hconfig
  exact nodup_domains_of_mem_listeners h hl hwritten

theorem domains_outsideHosts (mesh : Mesh) (s : Service) :
    (outsideHosts mesh s).flatMap (·.domains) =
      if s.isExternal then (requestNumbers s).flatMap (withPort · s.hostname) else [] := by
  rw [outsideHosts, Service.isExternal]
  cases s.externalName with
  | none => rfl
  | some outside =>
    rw [if_pos Option.isSome_some, requestNumbers, List.flatMap_map, List.flatMap_map]
    rfl

/-- The egress proxy lists hostnames only, and they have no colon. -/
theorem nodup_egressConfig_iff {mesh : Mesh} {registry : Registry.Memory} (hr : registry.IsSound) :
    (egressConfig mesh registry.services.values).domains.Nodup ↔
      ∀ s ∈ registry.services.values, s.isExternal = true → (requestNumbers s).Nodup := by
  have hown : ∀ s : Service, ((outsideHosts mesh s).flatMap (·.domains)).Nodup ↔
      (s.isExternal = true → (requestNumbers s).Nodup) := by
    intro s
    rw [domains_outsideHosts]
    split
    · next hexternal => rw [nodup_withPort_numbers_iff, imp_iff_right hexternal]
    · next hinside => exact iff_of_true List.nodup_nil fun hexternal => absurd hexternal hinside
  rw [egressConfig, RouteConfig.nodup_domains_ofHosts_iff, List.flatMap_assoc,
    nodup_flatMap_iff_of_nodup (Registry.Memory.nodup_services hr)]
  simp only [hown]
  refine and_iff_left fun s hs t ht hne domain hdomain hdomain' => hne ?_
  have hname : ∀ u ∈ registry.services.values,
      domain ∈ (outsideHosts mesh u).flatMap (·.domains) → ∃ n, domain ∈ withPort n u.hostname := by
    intro u _ hmem
    rw [domains_outsideHosts] at hmem
    split at hmem
    · obtain ⟨n, -, hn⟩ := List.mem_flatMap.mp hmem
      exact ⟨n, hn⟩
    · cases hmem
  have hcolon : ∀ u ∈ registry.services.values, ':' ∉ u.hostname.toList := fun u hu =>
    Validation.notMem_of_fqdn (Service.fqdn_of_validate (hr.validate hu)) (by decide) (by decide)
  obtain ⟨m, hm⟩ := hname s hs hdomain
  obtain ⟨n, hn⟩ := hname t ht hdomain'
  exact hr.service_eq hs ht (eq_of_mem_withPort (hcolon s hs) (hcolon t ht) hm hn)

theorem nodup_edgeConfig (secure : Bool) (routes : List EdgeRoute) :
    (edgeConfig secure routes).domains.Nodup := by
  have hdomains : (edgeConfig secure routes).domains =
      (edgeConfig secure routes).hosts.map (·.name) := by
    rw [RouteConfig.domains, List.flatMap_congr fun v hv => domains_of_mem_edgeConfig hv,
      List.map_eq_flatMap]
  rw [hdomains]
  exact (name_hosts_edgeConfig secure routes).nodup_iff.mpr (Entries.nodup_keysOf _)

theorem nodup_domains_ingress {mesh : Mesh} {registry : ρ}
    {policy : String → Tags → Option VersionPolicy} {node : Node} {routes : List EdgeRoute}
    {s : Settings} (h : ingress mesh registry policy node routes = .ok s) :
    ∀ config ∈ s.configs, config.domains.Nodup := by
  obtain ⟨clusters, -, rfl⟩ := exists_of_map_eq_ok h
  intro config hconfig
  rcases List.mem_append.mp hconfig with htable | hlistener
  · obtain ⟨e, he, rfl⟩ := List.mem_map.mp htable
    rcases List.mem_cons.mp he with rfl | he
    · exact nodup_edgeConfig false routes
    · obtain rfl := List.mem_singleton.mp he
      exact nodup_edgeConfig true routes
  · obtain ⟨l, hl, hwritten⟩ := List.mem_filterMap.mp hlistener
    obtain ⟨plain, hplain, rfl⟩ := List.mem_map.mp hl
    rw [written?_insertFilters] at hwritten
    rcases List.mem_cons.mp hplain with rfl | hsecure
    · cases hwritten
    · split at hsecure
      · obtain rfl := List.mem_singleton.mp hsecure
        cases hwritten
      · cases hsecure

/-- What it takes of a registry for all domains that a proxy is told to be unambiguous. -/
def DomainsApart (mesh : Mesh) (registry : Registry.Memory) (node : Node) : Prop :=
  match node.role with
  | .sidecar =>
    ToldApart mesh (suffixOf (registry.instancesAt [node.address.text])) registry.services.values
  | .ingress => True
  | .egress =>
    ∀ s ∈ registry.services.values, s.isExternal = true → (requestNumbers s).Nodup

/-- Within each configuration no domain occurs twice, if and only if the ports of services have
different numbers and the names that sidecars list for different services are different. -/
theorem domains_nodup_iff (ops : List Operation) (mesh : Mesh) (store : σ) (node : Node)
    {s : Settings}
    (h : (settings mesh (Registry.Memory.afterOperations ops) store node).1 = .ok s) :
    (∀ config ∈ s.configs, config.domains.Nodup) ↔
      DomainsApart mesh (Registry.Memory.afterOperations ops) node := by
  have hsound := Registry.Memory.isSound_afterOperations ops
  generalize Registry.Memory.afterOperations ops = registry at h hsound ⊢
  rw [settings] at h
  rw [DomainsApart]
  cases hrole : node.role with
  | sidecar =>
    rw [hrole] at h
    exact nodup_domains_sidecar_iff (Registry.Memory.nodup_services hsound)
      (fun _ ht => hsound.validate ht) (of_refuse h)
  | ingress =>
    rw [hrole] at h
    simp only [ingressSettings] at h
    split at h
    · cases h
    · exact iff_of_true (nodup_domains_ingress (of_refuse h)) trivial
  | egress =>
    rw [hrole] at h
    rw [configs_egress (of_refuse h), List.forall_mem_singleton]
    exact nodup_egressConfig_iff hsound

/-! ### Services that are told apart, and some that are not -/

def apart : List Operation := [
  .addService ⟨"reviews.local", none, [⟨"http", 80, .http⟩, ⟨"grpc", 9090, .grpc⟩], none⟩,
  .addService ⟨"ratings.local", some "10.0.0.1", [⟨"http", 80, .http⟩], none⟩,
  .addInstance "reviews.local" ⟨"10.1.1.1", 8080, "http", Tags.empty, none, none⟩]

/-- Shortened names and an address, and no domain is listed twice. -/
theorem domains_apart :
    ∃ s, (settings .default (Registry.Memory.afterOperations apart)
        (Config.Memory.new Rule.catalog) caller).1 = .ok s ∧
      ∀ config ∈ s.configs, config.domains.Nodup := by
  have hsound := Registry.Memory.isSound_afterOperations apart
  have hports : Uniform (inboundPorts (Registry.Memory.afterOperations apart)
      caller.address.text) := by decide
  obtain ⟨s, hs⟩ := (settings_new_succeed_iff hsound .default Rule.catalog caller).mpr hports
  have hapart : ToldApart .default ["reviews", "local"]
      (Registry.Memory.afterOperations apart).services.values :=
    ⟨by decide +kernel, by decide +kernel, by decide +kernel, by decide +kernel⟩
  exact ⟨s, hs, (domains_nodup_iff apart .default _ caller hs).mpr hapart⟩

/-- A service outside the mesh with two ports of one number. -/
def oneNumber : List Operation := [
  .addService ⟨"api.example", none, [⟨"http", 80, .http⟩, ⟨"web", 80, .http⟩],
    some "api.example.com"⟩]

/-- The egress proxy is told of two virtual hosts with the same domains. -/
theorem domains_of_one_number :
    ∃ s, (settings .default (Registry.Memory.afterOperations oneNumber)
        (Config.Memory.new Rule.catalog) egressNode).1 = .ok s ∧
      ∃ config ∈ s.configs, ¬ config.domains.Nodup := by
  have hsound := Registry.Memory.isSound_afterOperations oneNumber
  have hports : Uniform (outsidePorts (Registry.Memory.afterOperations oneNumber)) := by decide
  obtain ⟨s, hs⟩ := (settings_new_succeed_iff hsound .default Rule.catalog egressNode).mpr hports
  have hegress : egress .default (Registry.Memory.afterOperations oneNumber).services.values =
      .ok s := of_refuse hs
  refine ⟨s, hs, _, configs_egress hegress ▸ List.mem_singleton_self _, ?_⟩
  rw [nodup_egressConfig_iff hsound]
  decide

end Build

end MeshControl
