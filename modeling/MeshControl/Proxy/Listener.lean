import MeshControl.Proxy.Route

/-!
Listeners: addresses on which a proxy accepts connections, and what it does with them.
-/
namespace MeshControl.Proxy

inductive HttpFilter where
  /-- Reports requests to the mixer, with attributes of the workload. -/
  | mixer (attributes : Table String)
  | fault (f : Fault)
  /-- Forwards requests by their routes. -/
  | router
deriving DecidableEq, Inhabited

/-- Where a listener finds its routes. -/
inductive RouteSource where
  | written (config : RouteConfig)
  /-- Asked for by port, anew after each delay. -/
  | discovered (port : Nat) (refreshMillis : Nat)
deriving DecidableEq, Inhabited

structure HttpManager where
  routes : RouteSource
  filters : List HttpFilter
deriving DecidableEq, Inhabited

/-- A route of connections by their destination. -/
structure TcpRoute where
  cluster : String
  /-- Address blocks; none for any. -/
  addresses : List String
  port : Option Nat
deriving DecidableEq, Inhabited

inductive NetworkFilter where
  | http (manager : HttpManager)
  | tcp (routes : List TcpRoute)
deriving DecidableEq, Inhabited

structure ServerTls where
  certChain : String
  key : String
  rootCert : Option String
  requiresClientCert : Bool
deriving DecidableEq, Inhabited

structure Listener where
  name : String
  address : String
  filter : Option NetworkFilter
  tls : Option ServerTls
  bindsToPort : Bool
  /-- Whether connections are handed to the listener of their first destination. -/
  usesFirstDestination : Bool
deriving DecidableEq, Inhabited

def wildcard : String := "0.0.0.0"

def localhost : String := "127.0.0.1"

namespace HttpFilter

/-- The quota that every request counts against. -/
def quota : String := "RequestCount"

def mixerJson (attributes : Table String) : Json :=
  Json.object [
    Json.onlyIf (!attributes.isEmpty) "mixer_attributes" (Json.ofTable attributes),
    Json.onlyIf (!attributes.isEmpty) "forward_attributes" (Json.ofTable attributes),
    Json.field "quota_name" (.str quota)]

def name : HttpFilter → String
  | mixer _ => "mixer"
  | fault _ => "fault"
  | router => "router"

def config : HttpFilter → Json
  | mixer attributes => mixerJson attributes
  | fault f => f.json
  | router => .obj []

def json (f : HttpFilter) : Json :=
  .obj [("type", .str "decoder"), ("name", .str f.name), ("config", f.config)]

end HttpFilter

namespace RouteSource

/-- The cluster that answers for routes. -/
def cluster : String := "rds"

def json : RouteSource → String × Json
  | written config => ("route_config", config.json)
  | discovered port refreshMillis =>
    ("rds", .obj [("cluster", .str cluster), ("route_config_name", .str (toString port)),
      ("refresh_delay_ms", .nat refreshMillis)])

/-- The configuration in use, given those that can be asked for. -/
def config? (s : RouteSource) (table : RouteTable) : Option RouteConfig :=
  match s with
  | written config => some config
  | discovered port _ => table.find? port

end RouteSource

namespace HttpManager

/-- A manager that only forwards. -/
def ofRoutes (routes : RouteSource) : HttpManager := ⟨routes, [.router]⟩

def json (m : HttpManager) : Json :=
  .obj [("codec_type", .str "auto"), ("stat_prefix", .str "http"),
    ("access_log", .arr [.obj [("path", .str "/dev/stdout")]]),
    m.routes.json,
    ("filters", .arr (m.filters.map HttpFilter.json))]

/-- Puts filters before the router, or at the end if there is none. -/
def insertBeforeRouter (added : List HttpFilter) : List HttpFilter → List HttpFilter
  | [] => added
  | .router :: rest => added ++ .router :: rest
  | f :: rest => f :: insertBeforeRouter added rest

end HttpManager

namespace TcpRoute

def compareLists : List String → List String → Ordering
  | [], [] => .eq
  | [], _ => .lt
  | _, [] => .gt
  | a :: as, b :: bs => (Ord.compare a b).then (compareLists as bs)

/-- The text under which a port is written, and by which ports are ordered. -/
def portText (r : TcpRoute) : Option String := r.port.map toString

def compareTexts : Option String → Option String → Ordering
  | none, none => .eq
  | none, some _ => .lt
  | some _, none => .gt
  | some a, some b => Ord.compare a b

/-- By cluster, then by addresses, then by port. -/
def compare (a b : TcpRoute) : Ordering :=
  ((Ord.compare a.cluster b.cluster).then (compareLists a.addresses b.addresses)).then
    (compareTexts a.portText b.portText)

def sort (routes : List TcpRoute) : List TcpRoute :=
  routes.mergeSort fun a b => a.compare b != .gt

def json (r : TcpRoute) : Json :=
  Json.object [
    Json.field "cluster" (.str r.cluster),
    Json.onlyIf (!r.addresses.isEmpty) "destination_ip_list" (.arr (r.addresses.map .str)),
    Json.optional "destination_ports" (r.portText.map .str)]

end TcpRoute

namespace NetworkFilter

def name : NetworkFilter → String
  | http _ => "http_connection_manager"
  | tcp _ => "tcp_proxy"

def config : NetworkFilter → Json
  | http manager => manager.json
  | tcp routes =>
    .obj [("stat_prefix", .str "tcp"),
      ("route_config", .obj [("routes", .arr (routes.map TcpRoute.json))])]

def json (f : NetworkFilter) : Json :=
  .obj [("type", .str "read"), ("name", .str f.name), ("config", f.config)]

end NetworkFilter

namespace ServerTls

def json (t : ServerTls) : Json :=
  Json.object [
    Json.field "cert_chain_file" (.str t.certChain),
    Json.field "private_key_file" (.str t.key),
    Json.optional "ca_cert_file" (t.rootCert.map .str),
    Json.onlyIf t.requiresClientCert "require_client_certificate" (.bool true)]

end ServerTls

namespace Listener

def addressOf (ip : String) (port : Nat) : String := s!"tcp://{ip}:{port}"

/-- A listener on an address, named after it. -/
def on (kind ip : String) (port : Nat) (filter : NetworkFilter) : Listener :=
  ⟨s!"{kind}_{ip}_{port}", addressOf ip port, some filter, none, false, false⟩

/-- A listener for requests whose routes are asked for by its port. -/
def discovering (port refreshMillis : Nat) : Listener :=
  on "http" wildcard port (.http (.ofRoutes (.discovered port refreshMillis)))

def json (l : Listener) : Json :=
  Json.object [
    Json.field "name" (.str l.name),
    Json.field "address" (.str l.address),
    Json.field "filters" (.arr (l.filter.toList.map NetworkFilter.json)),
    Json.optional "ssl_context" (l.tls.map ServerTls.json),
    Json.field "bind_to_port" (.bool l.bindsToPort),
    Json.onlyIf l.usesFirstDestination "use_original_dst" (.bool true)]

/-- Changes how requests are filtered, if the listener is for requests. -/
def mapFilters (f : HttpManager → List HttpFilter) (l : Listener) : Listener :=
  match l.filter with
  | some (.http m) => { l with filter := some (.http { m with filters := f m }) }
  | _ => l

end Listener

/-- All that one proxy is told. -/
structure Settings where
  listeners : List Listener
  clusters : List Cluster
  routes : RouteTable
deriving DecidableEq, Inhabited

/-- The parts of the settings; the routes stand under their ports. -/
def Settings.parts (s : Settings) : List (String × Json) := [
  ("listeners", .arr (s.listeners.map Listener.json)),
  ("clusters", .arr (s.clusters.map Cluster.json)),
  ("routes", .obj (s.routes.map fun (port, c) => (toString port, c.json)))]

end MeshControl.Proxy
