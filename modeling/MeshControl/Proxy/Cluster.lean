import MeshControl.Service

/-!
Clusters: named groups of hosts that a proxy forwards to. A cluster of a mesh service remembers
the service, port and tags behind it, which its document does not show.
-/
namespace MeshControl.Proxy

inductive Resolution where
  | sds
  | static
  | strictDns
deriving DecidableEq, Repr, Inhabited

inductive Balancing where
  | roundRobin
  | leastRequest
  | random
deriving DecidableEq, Repr, Inhabited

/-- The part of a mesh service that a cluster stands for. -/
structure Subset where
  hostname : String
  port : Port
  tags : Tags
deriving DecidableEq, Inhabited

structure ClientTls where
  certChain : String
  key : String
  rootCert : String
  /-- The identities that servers may have; none for any. -/
  identities : List String
deriving DecidableEq, Inhabited

/-- Limits on the connections and requests of a cluster. What is not given is left to the
proxy. -/
structure Limits where
  maxConnections : Option Int
  maxPendingRequests : Option Int
  maxRequests : Option Int
deriving DecidableEq, Inhabited

/-- When hosts that fail are left out for a while. -/
structure Ejection where
  consecutiveErrors : Option Int
  intervalMillis : Option Nat
  baseMillis : Option Nat
  maxPercent : Int
deriving DecidableEq, Inhabited

structure Cluster where
  name : String
  serviceName : Option String
  connectMillis : Nat
  resolution : Resolution
  balancing : Balancing
  /-- Addresses with their scheme, `tcp://host:port`. -/
  hosts : List String
  tls : Option ClientTls
  http2 : Bool
  maxRequestsPerConnection : Option Int
  limits : Option Limits
  ejection : Option Ejection
  subset : Option Subset
deriving DecidableEq, Inhabited

namespace Resolution

def text : Resolution → String
  | sds => "sds"
  | static => "static"
  | strictDns => "strict_dns"

end Resolution

namespace Balancing

def text : Balancing → String
  | roundRobin => "round_robin"
  | leastRequest => "least_request"
  | random => "random"

end Balancing

namespace ClientTls

def json (t : ClientTls) : Json :=
  Json.object [
    Json.field "cert_chain_file" (.str t.certChain),
    Json.field "private_key_file" (.str t.key),
    Json.field "ca_cert_file" (.str t.rootCert),
    Json.onlyIf (!t.identities.isEmpty) "verify_subject_alt_name"
      (.arr (t.identities.map .str))]

end ClientTls

namespace Limits

def json (l : Limits) : Json :=
  .obj [("default", Json.object [
    Json.optional "max_connections" (l.maxConnections.map .int),
    Json.optional "max_pending_requests" (l.maxPendingRequests.map .int),
    Json.optional "max_requests" (l.maxRequests.map .int)])]

end Limits

namespace Ejection

def json (e : Ejection) : Json :=
  Json.object [
    Json.optional "consecutive_5xx" (e.consecutiveErrors.map .int),
    Json.optional "interval_ms" (e.intervalMillis.map .nat),
    Json.optional "base_ejection_time_ms" (e.baseMillis.map .nat),
    Json.field "max_ejection_percent" (.int e.maxPercent)]

end Ejection

namespace Cluster

/-- A cluster with a name and a time to connect, and nothing else set. -/
def named (name : String) (connectMillis : Nat) : Cluster where
  name := name
  serviceName := none
  connectMillis := connectMillis
  resolution := .sds
  balancing := .roundRobin
  hosts := []
  tls := none
  http2 := false
  maxRequestsPerConnection := none
  limits := none
  ejection := none
  subset := none

/-- A cluster of one host that is found by its name. -/
def ofHost (name : String) (connectMillis : Nat) (host : String) (http2 : Bool) : Cluster :=
  { named name connectMillis with
    resolution := .strictDns, hosts := ["tcp://" ++ host], http2 := http2 }

def json (c : Cluster) : Json :=
  Json.object [
    Json.field "name" (.str c.name),
    Json.optional "service_name" (c.serviceName.map .str),
    Json.field "connect_timeout_ms" (.nat c.connectMillis),
    Json.field "type" (.str c.resolution.text),
    Json.field "lb_type" (.str c.balancing.text),
    Json.onlyIf (!c.hosts.isEmpty) "hosts" (.arr (c.hosts.map fun h => .obj [("url", .str h)])),
    Json.optional "ssl_context" (c.tls.map ClientTls.json),
    Json.onlyIf c.http2 "features" (.str "http2"),
    Json.optional "max_requests_per_connection" (c.maxRequestsPerConnection.map .int),
    Json.optional "circuit_breakers" (c.limits.map Limits.json),
    Json.optional "outlier_detection" (c.ejection.map Ejection.json)]

/-! ### Sets of clusters -/

/-- The name of a cluster that differs from one of the same name. -/
abbrev Conflict := String

/-- Puts clusters into a list sorted by name. Clusters of one name must be equal. -/
def collect : List (String × Cluster) → List Cluster → Except Conflict (List (String × Cluster))
  | found, [] => .ok found
  | found, c :: cs =>
    match Entries.find? c.name found with
    | none => collect (Entries.put textLt c.name c found) cs
    | some d => if d = c then collect found cs else .error c.name

/-- The clusters by name, each once. -/
def distinct (clusters : List Cluster) : Except Conflict (List Cluster) :=
  (collect [] clusters).map fun found => found.map (·.2)

end Cluster

end MeshControl.Proxy
