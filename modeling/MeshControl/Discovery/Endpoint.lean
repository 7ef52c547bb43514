import MeshControl.Build.Settings
import MeshControl.Http

/-!
What proxies ask the discovery service for, by path:

* `/v1/registration/key`: the hosts of a service,
* `/v1/clusters/cluster/node`, `/v1/listeners/cluster/node`: clusters and listeners of a proxy,
* `/v1/routes/port/cluster/node`: the routes of one of its listeners,
* `/cache_stats`: how often each path was asked for.
-/
namespace MeshControl.Discovery

inductive Endpoint where
  | registration (key : String)
  | clusters (cluster node : String)
  | listeners (cluster node : String)
  | routes (name cluster node : String)
  | cacheStats
deriving DecidableEq, Repr

inductive RequestError where
  | node (e : NodeError)
  | cluster (name : String)
  | routeName (name : String)
  | routeConfig (port : Nat)
  | build (e : Build.BuildError)
deriving DecidableEq, Repr

namespace Endpoint

def ofPath? (path : String) : Option Endpoint :=
  match Text.split '/' (Text.dropLeading '/' path) with
  | ["v1", "registration", key] => some (registration key)
  | ["v1", "clusters", cluster, node] => some (clusters cluster node)
  | ["v1", "listeners", cluster, node] => some (listeners cluster node)
  | ["v1", "routes", name, cluster, node] => some (routes name cluster node)
  | ["cache_stats"] => some cacheStats
  | _ => none

/-- The short name under which requests are counted. -/
def label : Endpoint → String
  | registration _ => "sds"
  | clusters _ _ => "cds"
  | listeners _ _ => "lds"
  | routes _ _ _ => "rds"
  | cacheStats => "cache_stats"

end Endpoint

namespace RequestError

def text : RequestError → String
  | node e => s!"invalid service node: {e.text}"
  | cluster name => s!"unexpected service cluster {Text.quote name}"
  | routeName name => s!"unexpected route config name {Text.quote name}"
  | routeConfig port => s!"missing route config for port {port}"
  | build e => e.text

def status : RequestError → Nat
  | node _ => 400
  | cluster _ | routeName _ | routeConfig _ => 404
  | build _ => 500

/-- Whether the error counts as a failure of the service. -/
def isFailure : RequestError → Bool
  | build _ => true
  | _ => false

end RequestError

/-! ### Answers -/

open Proxy Registry Config

def hostJson (i : Instance) : Json :=
  Json.object [
    Json.field "ip_address" (.str i.endpoint.address),
    Json.field "port" (.nat i.endpoint.port),
    Json.optional "tags" (i.zone.map fun z => .obj [("az", .str z)])]

def hostsJson (instances : List Instance) : Json :=
  .obj [("hosts", .arr (instances.map hostJson))]

variable {ρ σ : Type} [Directory ρ] [Store σ]

/-- The hosts that a discovery key names. -/
def hosts (registry : ρ) (key : String) : Except RequestError (List Instance) :=
  let k := ServiceKey.parse key
  (Directory.instances registry k.hostname k.ports k.tags).mapError fun e => .build (.registry e)

/-- The identity of a proxy that asks on behalf of a cluster. -/
def readNode (mesh : Mesh) (cluster node : String) : Except RequestError Node :=
  if cluster ≠ mesh.serviceCluster then .error (.cluster cluster)
  else (Node.ofText node).mapError .node

/-- A part of the settings of the proxy that asks. -/
def ofSettings {α : Type} (mesh : Mesh) (registry : ρ) (store : σ) (cluster node : String)
    (part : Settings → Except RequestError α) : Except RequestError α × σ :=
  match readNode mesh cluster node with
  | .error e => (.error e, store)
  | .ok node =>
    let (result, store) := Build.settings mesh registry store node
    (match result with
      | .error e => .error (.build e)
      | .ok settings => part settings, store)

def routesFor (port : Nat) (s : Settings) : Except RequestError RouteConfig :=
  match s.routes.find? port with
  | some config => .ok config
  | none => .error (.routeConfig port)

def clustersJson (s : Settings) : Json :=
  .obj [("clusters", .arr (s.clusters.map Cluster.json))]

def listenersJson (s : Settings) : Json :=
  .obj [("listeners", .arr (s.listeners.map Listener.json))]

/-- The answer to a request. Statistics are not answered from here. -/
def respond (mesh : Mesh) (registry : ρ) (store : σ) :
    Endpoint → Except RequestError Json × σ
  | .registration key => ((hosts registry key).map hostsJson, store)
  | .clusters cluster node =>
    ofSettings mesh registry store cluster node fun s => .ok (clustersJson s)
  | .listeners cluster node =>
    ofSettings mesh registry store cluster node fun s => .ok (listenersJson s)
  | .routes name cluster node =>
    match Port.numberOfText? name with
    | none => (.error (.routeName name), store)
    | some port =>
      ofSettings mesh registry store cluster node fun s => (routesFor port s).map RouteConfig.json
  | .cacheStats => (.ok (.obj []), store)

end MeshControl.Discovery
