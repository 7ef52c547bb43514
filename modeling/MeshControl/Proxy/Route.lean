import MeshControl.Proxy.Cluster

/-!
Routes of requests: virtual hosts selected by domain, and in each a list of routes of which the
first that matches a request serves it.
-/
namespace MeshControl.Proxy

inductive PathMatch where
  | exactly (path : String)
  | startingWith (path : String)
deriving DecidableEq, Repr, Inhabited

structure Header where
  name : String
  value : String
  /-- Whether the value is a pattern. -/
  isPattern : Bool
deriving DecidableEq, Repr, Inhabited

structure AbortFault where
  percent : Nat
  status : Int
deriving DecidableEq, Repr, Inhabited

structure DelayFault where
  percent : Nat
  millis : Nat
deriving DecidableEq, Repr, Inhabited

/-- A fault for the requests that go to one cluster. -/
structure Fault where
  abort : Option AbortFault
  delay : Option DelayFault
  headers : List Header
  cluster : String
deriving DecidableEq, Repr, Inhabited

structure RetryPolicy where
  retries : Int
  perTryMillis : Option Nat
deriving DecidableEq, Repr, Inhabited

inductive Forward where
  | cluster (name : String)
  /-- Clusters with their shares in percent. -/
  | weighted (shares : List (String × Int))
deriving DecidableEq, Repr, Inhabited

structure HttpRoute where
  path : PathMatch
  headers : List Header
  forward : Forward
  timeoutMillis : Option Nat
  retry : Option RetryPolicy
  /-- Whether requests are checked by the mixer. -/
  checked : Bool
  /-- Whether the host header is replaced by the name of the host that is called. -/
  renamesHost : Bool
  /-- The clusters the route forwards to. -/
  clusters : List Cluster
  faults : List Fault
deriving DecidableEq, Inhabited

structure VirtualHost where
  name : String
  domains : List String
  routes : List HttpRoute
deriving DecidableEq, Inhabited

structure RouteConfig where
  hosts : List VirtualHost
deriving DecidableEq, Inhabited

/-- Route configurations by the port of the listener that uses them, in the order of ports. -/
abbrev RouteTable := List (Nat × RouteConfig)

namespace PathMatch

def any : PathMatch := startingWith "/"

def json : PathMatch → String × Json
  | exactly p => ("path", .str p)
  | startingWith p => ("prefix", .str p)

/-- Exact paths come before prefixes, and longer prefixes before shorter ones. -/
def compare : PathMatch → PathMatch → Ordering
  | exactly a, exactly b => Ord.compare a b
  | exactly _, startingWith _ => .lt
  | startingWith _, exactly _ => .gt
  | startingWith a, startingWith b =>
    (Ord.compare b.utf8ByteSize a.utf8ByteSize).then (Ord.compare a b)

end PathMatch

namespace Header

def json (h : Header) : Json :=
  Json.object [
    Json.field "name" (.str h.name),
    Json.field "value" (.str h.value),
    Json.onlyIf h.isPattern "regex" (.bool true)]

end Header

def headersField (headers : List Header) : Option (String × Json) :=
  Json.onlyIf (!headers.isEmpty) "headers" (.arr (headers.map Header.json))

namespace AbortFault

def json (a : AbortFault) : Json :=
  .obj [("abort_percent", .nat a.percent), ("http_status", .int a.status)]

end AbortFault

namespace DelayFault

def json (d : DelayFault) : Json :=
  .obj [("type", .str "fixed"), ("fixed_delay_percent", .nat d.percent),
    ("fixed_duration_ms", .nat d.millis)]

end DelayFault

namespace Fault

def json (f : Fault) : Json :=
  Json.object [
    Json.optional "abort" (f.abort.map AbortFault.json),
    Json.optional "delay" (f.delay.map DelayFault.json),
    headersField f.headers,
    Json.field "upstream_cluster" (.str f.cluster)]

end Fault

namespace RetryPolicy

/-- What is retried. -/
def conditions : String := "5xx,connect-failure,refused-stream"

def json (r : RetryPolicy) : Json :=
  Json.object [
    Json.field "retry_on" (.str conditions),
    Json.field "num_retries" (.int r.retries),
    Json.optional "per_try_timeout_ms" (r.perTryMillis.map .nat)]

end RetryPolicy

namespace Forward

def shareJson : String × Int → Json
  | (name, weight) => .obj [("name", .str name), ("weight", .int weight)]

def json : Forward → String × Json
  | cluster name => ("cluster", .str name)
  | weighted shares =>
    ("weighted_clusters", .obj [("clusters", .arr (shares.map shareJson))])

end Forward

namespace HttpRoute

/-- A route for every request, to one cluster. -/
def toCluster (c : Cluster) : HttpRoute where
  path := .any
  headers := []
  forward := .cluster c.name
  timeoutMillis := none
  retry := none
  checked := false
  renamesHost := false
  clusters := [c]
  faults := []

/-- A route without conditions; routes after it are never reached. -/
def isCatchAll (r : HttpRoute) : Bool := r.headers.isEmpty && r.path == .any

/-- What the mixer is told about requests into a workload. -/
def checksJson : Json := .obj [("mixer_control", .str "on"), ("mixer_forward", .str "off")]

def json (r : HttpRoute) : Json :=
  Json.object [
    some r.path.json,
    some r.forward.json,
    headersField r.headers,
    Json.optional "timeout_ms" (r.timeoutMillis.map .nat),
    Json.optional "retry_policy" (r.retry.map RetryPolicy.json),
    Json.onlyIf r.checked "opaque_config" checksJson,
    Json.onlyIf r.renamesHost "auto_host_rewrite" (.bool true)]

/-- Sorts routes by their paths; routes of one path keep their order. -/
def sortByPath (routes : List HttpRoute) : List HttpRoute :=
  routes.mergeSort fun a b => a.path.compare b.path != .gt

end HttpRoute

namespace VirtualHost

def json (v : VirtualHost) : Json :=
  .obj [("name", .str v.name), ("domains", .arr (v.domains.map .str)),
    ("routes", .arr (v.routes.map HttpRoute.json))]

end VirtualHost

namespace RouteConfig

/-- A configuration of virtual hosts sorted by name. -/
def ofHosts (hosts : List VirtualHost) : RouteConfig :=
  ⟨hosts.mergeSort fun a b => !textLt b.name a.name⟩

def routes (c : RouteConfig) : List HttpRoute := c.hosts.flatMap (·.routes)

def clusters (c : RouteConfig) : List Cluster := c.routes.flatMap (·.clusters)

def faults (c : RouteConfig) : List Fault := c.routes.flatMap (·.faults)

def json (c : RouteConfig) : Json := .obj [("virtual_hosts", .arr (c.hosts.map VirtualHost.json))]

end RouteConfig

namespace RouteTable

def find? (t : RouteTable) (port : Nat) : Option RouteConfig := Entries.find? port t

def ports (t : RouteTable) : List Nat := t.map (·.1)

def clusters (t : RouteTable) : List Cluster := t.flatMap (·.2.clusters)

end RouteTable

end MeshControl.Proxy
