import MeshControl.Config.Error
import MeshControl.Proofs.Proxy.Agreement
import MeshControl.Proxy.Listener

/-!
What the settings of a proxy refer to by name. Routes carry the clusters that they forward to, so
settings are closed when all clusters that are carried are told to the proxy, and when listeners
ask only for ports that have routes. What stands in a list that is sorted by name can be told
apart by name.
-/
namespace MeshControl.Proxy

/-! ### References -/

/-- The clusters that requests are forwarded to. -/
def Forward.names : Forward → List String
  | .cluster name => [name]
  | .weighted shares => shares.map (·.1)

def RouteConfig.names (c : RouteConfig) : List String := c.routes.flatMap (·.forward.names)

namespace RouteSource

def written? : RouteSource → Option RouteConfig
  | .written config => some config
  | .discovered _ _ => none

def asked? : RouteSource → Option Nat
  | .written _ => none
  | .discovered port _ => some port

end RouteSource

namespace Listener

def source? (l : Listener) : Option RouteSource :=
  match l.filter with
  | some (.http m) => some m.routes
  | _ => none

/-- The routes that stand in a listener. -/
def written? (l : Listener) : Option RouteConfig := l.source?.bind (·.written?)

/-- The port for whose routes a listener asks. -/
def asked? (l : Listener) : Option Nat := l.source?.bind (·.asked?)

def tcpRoutes (l : Listener) : List TcpRoute :=
  match l.filter with
  | some (.tcp routes) => routes
  | _ => []

/-! Filters do not change where requests go. -/

@[simp] theorem source?_mapFilters (f : HttpManager → List HttpFilter) (l : Listener) :
    (l.mapFilters f).source? = l.source? := by
  rw [mapFilters]
  split
  · next m hfilter => simp only [source?, hfilter]
  · rfl

@[simp] theorem tcpRoutes_mapFilters (f : HttpManager → List HttpFilter) (l : Listener) :
    (l.mapFilters f).tcpRoutes = l.tcpRoutes := by
  rw [mapFilters]
  split
  · next m hfilter => simp only [tcpRoutes, hfilter]
  · rfl

end Listener

namespace Settings

/-- All route configurations, those by port and those that stand in listeners. -/
def configs (s : Settings) : List RouteConfig :=
  s.routes.map (·.2) ++ s.listeners.filterMap Listener.written?

/-- The clusters that are forwarded to, by name. -/
def references (s : Settings) : List String :=
  s.configs.flatMap (·.names) ++ s.listeners.flatMap fun l => l.tcpRoutes.map (·.cluster)

/-- Nothing that is referred to is missing, and what has a name stands in the order of names. -/
structure IsClosed (s : Settings) : Prop where
  clusters : (s.clusters.map (·.name)).Pairwise (· < ·)
  references : s.references ⊆ s.clusters.map (·.name)
  asked : ∀ l ∈ s.listeners, ∀ port, l.asked? = some port →
    ∃ config, s.routes.find? port = some config
  hosts : ∀ config ∈ s.configs, (config.hosts.map (·.name)).Pairwise (· ≤ ·)

end Settings

/-! ### Routes -/

/-- A route carries the clusters that it forwards to. -/
def HttpRoute.IsBacked (r : HttpRoute) : Prop := r.forward.names ⊆ r.clusters.map (·.name)

/-- All routes are backed, and the virtual hosts are sorted. -/
structure RouteConfig.IsTidy (c : RouteConfig) : Prop where
  backed : ∀ r ∈ c.routes, r.IsBacked
  sorted : (c.hosts.map (·.name)).Pairwise (· ≤ ·)

theorem RouteConfig.IsTidy.names_subset {c : RouteConfig} (h : c.IsTidy) :
    c.names ⊆ c.clusters.map (·.name) := by
  intro name hname
  obtain ⟨r, hr, hforward⟩ := List.mem_flatMap.mp hname
  obtain ⟨d, hd, rfl⟩ := List.mem_map.mp (h.backed r hr hforward)
  exact List.mem_map_of_mem (List.mem_flatMap.mpr ⟨r, hr, hd⟩)

theorem RouteConfig.isTidy_ofHosts {hosts : List VirtualHost}
    (h : ∀ v ∈ hosts, ∀ r ∈ v.routes, r.IsBacked) : (RouteConfig.ofHosts hosts).IsTidy where
  backed r hr := by
    obtain ⟨v, hv, hr⟩ := List.mem_flatMap.mp hr
    exact h v (List.mem_mergeSort.mp hv) r hr
  sorted := List.pairwise_map.mpr (pairwise_mergeSort_text (·.name) hosts)

theorem HttpRoute.isBacked_toCluster (c : Cluster) : (HttpRoute.toCluster c).IsBacked :=
  List.Subset.refl _

theorem RouteTable.find?_of_mem {t : RouteTable} {port : Nat} (h : port ∈ t.ports) :
    ∃ config, t.find? port = some config := by
  induction t with
  | nil => cases h
  | cons e t ih =>
    rw [find?, Entries.find?]
    split
    · exact ⟨e.2, rfl⟩
    · next hne => exact ih ((List.mem_cons.mp h).resolve_left hne)

/-! ### Listeners -/

/-- What a listener needs is among some clusters and some ports with routes. -/
structure Listener.IsServed (l : Listener) (names : List String) (ports : List Nat) : Prop where
  written : ∀ config, l.written? = some config →
    config.IsTidy ∧ config.clusters.map (·.name) ⊆ names
  forwarded : ∀ r ∈ l.tcpRoutes, r.cluster ∈ names
  asked : ∀ port, l.asked? = some port → port ∈ ports

namespace Listener

variable {l : Listener} {names names' : List String} {ports ports' : List Nat}

theorem IsServed.mono (h : l.IsServed names ports) (hnames : names ⊆ names')
    (hports : ports ⊆ ports') : l.IsServed names' ports' where
  written config hconfig :=
    ⟨(h.written config hconfig).1, List.Subset.trans (h.written config hconfig).2 hnames⟩
  forwarded r hr := hnames (h.forwarded r hr)
  asked port hport := hports (h.asked port hport)

theorem isServed_of_written {config : RouteConfig}
    (hfilter : l.filter = some (.http (.ofRoutes (.written config)))) (h : config.IsTidy) :
    l.IsServed (config.clusters.map (·.name)) [] := by
  have hsource : l.source? = some (.written config) := by rw [source?, hfilter]; rfl
  constructor
  case written =>
    intro config' hconfig
    rw [written?, hsource] at hconfig
    obtain rfl : config = config' := Option.some.inj hconfig
    exact ⟨h, List.Subset.refl _⟩
  case forwarded => simp [tcpRoutes, hfilter]
  case asked =>
    intro port hport
    rw [asked?, hsource] at hport
    cases hport

theorem isServed_of_discovered {port refresh : Nat}
    (hfilter : l.filter = some (.http (.ofRoutes (.discovered port refresh)))) :
    l.IsServed [] [port] := by
  have hsource : l.source? = some (.discovered port refresh) := by rw [source?, hfilter]; rfl
  constructor
  case written =>
    intro config hconfig
    rw [written?, hsource] at hconfig
    cases hconfig
  case forwarded => simp [tcpRoutes, hfilter]
  case asked =>
    intro port' hport
    rw [asked?, hsource] at hport
    obtain rfl : port = port' := Option.some.inj hport
    exact List.mem_singleton_self port

theorem isServed_of_source {routes : List TcpRoute} (hroutes : l.tcpRoutes = routes)
    (hsource : l.source? = none) : l.IsServed (routes.map (·.cluster)) [] where
  written config hconfig := by simp [written?, hsource] at hconfig
  forwarded r hr := List.mem_map_of_mem (hroutes ▸ hr)
  asked port hport := by simp [asked?, hsource] at hport

theorem isServed_mapFilters (f : HttpManager → List HttpFilter) (h : l.IsServed names ports) :
    (l.mapFilters f).IsServed names ports where
  written := by simpa [written?] using h.written
  forwarded := by simpa using h.forwarded
  asked := by simpa [asked?] using h.asked

end Listener

/-- Settings are closed if the clusters are sorted and all that carries clusters has them there. -/
theorem Settings.isClosed_of {s : Settings}
    (hclusters : (s.clusters.map (·.name)).Pairwise (· < ·))
    (htable : ∀ e ∈ s.routes, e.2.IsTidy)
    (hcarried : s.routes.clusters.map (·.name) ⊆ s.clusters.map (·.name))
    (hlisteners : ∀ l ∈ s.listeners, l.IsServed (s.clusters.map (·.name)) s.routes.ports) :
    s.IsClosed := by
  have hconfigs : ∀ config ∈ s.configs,
      config.IsTidy ∧ config.clusters.map (·.name) ⊆ s.clusters.map (·.name) := by
    intro config hconfig
    rcases List.mem_append.mp hconfig with hport | hlistener
    · obtain ⟨e, he, rfl⟩ := List.mem_map.mp hport
      refine ⟨htable e he, fun name hname => hcarried ?_⟩
      obtain ⟨c, hc, rfl⟩ := List.mem_map.mp hname
      exact List.mem_map_of_mem (List.mem_flatMap.mpr ⟨e, he, hc⟩)
    · obtain ⟨l, hl, hwritten⟩ := List.mem_filterMap.mp hlistener
      exact (hlisteners l hl).written config hwritten
  constructor
  case clusters => exact hclusters
  case references =>
    intro name hname
    rcases List.mem_append.mp hname with hrequests | hconnections
    · obtain ⟨config, hconfig, hmem⟩ := List.mem_flatMap.mp hrequests
      obtain ⟨htidy, hsubset⟩ := hconfigs config hconfig
      exact hsubset (htidy.names_subset hmem)
    · obtain ⟨l, hl, hmem⟩ := List.mem_flatMap.mp hconnections
      obtain ⟨r, hr, rfl⟩ := List.mem_map.mp hmem
      exact (hlisteners l hl).forwarded r hr
  case asked =>
    intro l hl port hport
    exact RouteTable.find?_of_mem ((hlisteners l hl).asked port hport)
  case hosts => exact fun config hconfig => (hconfigs config hconfig).1.sorted

/-! ### The names of listeners -/

namespace Listener

def nameOf (kind ip : String) (port : Nat) : String := s!"{kind}_{ip}_{port}"

/-- A listener is named after what it takes and the address it stands at. -/
def IsNamed (l : Listener) : Prop :=
  ∃ kind ip port, (kind = "http" ∨ kind = "tcp") ∧ l.name = nameOf kind ip port ∧
    l.address = addressOf ip port

/-- The port stands behind the last underscore of a name, and kinds differ in their first
letters. -/
theorem nameOf_inj {kind kind' ip ip' : String} {port port' : Nat}
    (hkind : kind = "http" ∨ kind = "tcp") (hkind' : kind' = "http" ∨ kind' = "tcp")
    (h : nameOf kind ip port = nameOf kind' ip' port') : ip = ip' ∧ port = port' := by
  have hchars : (kind.toList ++ '_' :: ip.toList) ++ '_' :: (toString port).toList =
      (kind'.toList ++ '_' :: ip'.toList) ++ '_' :: (toString port').toList := by
    simpa [nameOf, ToString.toString] using congrArg String.toList h
  have hparts := (Decimal.append_cons_toString_inj (by decide)).mp hchars
  refine ⟨String.toList_inj.mp ?_, hparts.2⟩
  rcases hkind with rfl | rfl <;> rcases hkind' with rfl | rfl <;> simpa using hparts.1

/-- Listeners of one name stand at one address. -/
theorem IsNamed.address_eq {l k : Listener} (hl : l.IsNamed) (hk : k.IsNamed)
    (h : l.name = k.name) : l.address = k.address := by
  obtain ⟨kind, ip, port, hkind, hname, haddress⟩ := hl
  obtain ⟨kind', ip', port', hkind', hname', haddress'⟩ := hk
  rw [hname, hname'] at h
  obtain ⟨rfl, rfl⟩ := nameOf_inj hkind hkind' h
  rw [haddress, haddress']

theorem isNamed_on {kind : String} (hkind : kind = "http" ∨ kind = "tcp") (ip : String)
    (port : Nat) (filter : NetworkFilter) : (on kind ip port filter).IsNamed :=
  ⟨kind, ip, port, hkind, rfl, rfl⟩

theorem IsNamed.mapFilters {l : Listener} (h : l.IsNamed) (f : HttpManager → List HttpFilter) :
    (l.mapFilters f).IsNamed := by
  rw [Listener.mapFilters]
  split <;> exact h

end Listener

/-! ### The order of clusters -/

namespace Cluster

/-- Clusters are collected under their names, in the order of names. -/
theorem pairwise_collect {found all : List (String × Cluster)} {cs : List Cluster}
    (h : collect found cs = .ok all) (hsorted : found.Pairwise fun a b => a.1 < b.1)
    (hnamed : ∀ e ∈ found, e.1 = e.2.name) :
    (all.Pairwise fun a b => a.1 < b.1) ∧ ∀ e ∈ all, e.1 = e.2.name := by
  induction cs generalizing found with
  | nil =>
    obtain rfl := Except.ok.inj h
    exact ⟨hsorted, hnamed⟩
  | cons c cs ih =>
    rw [collect] at h
    split at h
    · refine ih h (Table.put_sorted c.name c hsorted) fun e he => ?_
      rcases Entries.mem_put he with rfl | hold
      · rfl
      · exact hnamed e hold
    · split at h
      · exact ih h hsorted hnamed
      · cases h

theorem pairwise_name_distinct {cs l : List Cluster} (h : distinct cs = .ok l) :
    (l.map (·.name)).Pairwise (· < ·) := by
  obtain ⟨all, hall, rfl⟩ := exists_of_map_eq_ok h
  have hnone : ∀ e ∈ ([] : List (String × Cluster)), e.1 = e.2.name :=
    fun e he => absurd he List.not_mem_nil
  obtain ⟨hsorted, hnamed⟩ := pairwise_collect hall List.Pairwise.nil hnone
  have hnames : (all.map (·.2)).map (·.name) = all.map (·.1) := by
    rw [List.map_map]
    exact List.map_congr_left fun e he => (hnamed e he).symm
  rw [hnames]
  exact List.pairwise_map.mpr hsorted

end Cluster

end MeshControl.Proxy
