import MeshControl.Build.External
import MeshControl.Build.Mixer
import MeshControl.Build.Policy
import MeshControl.Rule.Selection

/-!
Settings of the proxy beside a workload. Its virtual listener takes all connections and hands
each to the listener of the address it was meant for. Listeners on the addresses of the workload
forward to it; one listener for each port of requests routes them by virtual host; one for each
address and port of TCP services forwards to a cluster.
-/
namespace MeshControl.Build

open Proxy Registry

def natLt (a b : Nat) : Bool := decide (a < b)

/-! ### Requests out of the workload -/

/-- The routes to one port of a service; none if the service cannot be reached. -/
def routesTo? (mesh : Mesh) (rules : List RouteRule) (service : Service) (port : Port) :
    Option (List HttpRoute) :=
  if service.isExternal then (egressRoute? mesh service port).map fun r => [r]
  else some (destinationRoutes mesh service port rules)

/-- The virtual hosts of a service with their ports. -/
def outboundHosts (mesh : Mesh) (rules : List RouteRule) (suffix : List String)
    (service : Service) : List (Nat × VirtualHost) :=
  (service.ports.filter (·.protocol.isHttp)).filterMap fun port =>
    (routesTo? mesh rules service port).map fun routes =>
      (port.number, virtualHost service port suffix routes)

def suffixOf (instances : List Instance) : List String :=
  sharedSuffix (instances.map (·.service.hostname))

/-- Route configurations for every port of requests of every service. -/
def outboundRoutes (mesh : Mesh) (instances : List Instance) (services : List Service)
    (rules : List RouteRule) : RouteTable :=
  let hosts := services.flatMap (outboundHosts mesh rules (suffixOf instances))
  (Entries.group natLt hosts).map fun (port, hosts) => (port, .ofHosts hosts)

def outboundListeners (mesh : Mesh) (table : RouteTable) : List Listener :=
  table.ports.map fun port => .discovering port mesh.refreshDelay.millis

/-! ### Connections out of the workload -/

def ipPortLt (a b : String × Nat) : Bool :=
  textLt a.1 b.1 || (a.1 == b.1 && natLt a.2 b.2)

/-- The services inside the mesh with their TCP ports. -/
def tcpPorts (services : List Service) : List (Service × Port) :=
  (services.filter (!·.isExternal)).flatMap fun s =>
    (s.ports.filter (·.protocol.isTcp)).map fun p => (s, p)

def tcpCluster (mesh : Mesh) (service : Service) (port : Port) : Cluster :=
  outboundCluster mesh service.hostname port Tags.empty

/-- The block of a single address. -/
def blockOf (address : String) : String := address ++ "/32"

/-- The address a TCP port is listened for on, and the route. -/
def tcpRoute (mesh : Mesh) (service : Service) (port : Port) : (String × Nat) × TcpRoute :=
  ((service.address.getD wildcard, port.number),
    ⟨(tcpCluster mesh service port).name, (service.address.map blockOf).toList,
      some port.number⟩)

/-- One listener for each address and TCP port. Services without an address share a wildcard
listener. -/
def tcpListeners (mesh : Mesh) (services : List Service) : List Listener :=
  let routes := (tcpPorts services).map fun (s, p) => tcpRoute mesh s p
  (Entries.group ipPortLt routes).map fun ((ip, port), routes) =>
    .on "tcp" ip port (.tcp (TcpRoute.sort routes))

def tcpClusters (mesh : Mesh) (services : List Service) : List Cluster :=
  (tcpPorts services).map fun (s, p) => tcpCluster mesh s p

/-! ### Connections into the workload -/

def inboundCluster (mesh : Mesh) (port : Nat) (protocol : Protocol) : Cluster :=
  { Cluster.named s!"inbound:{port}" mesh.connectTimeout.millis with
    resolution := .static
    hosts := [s!"tcp://{localhost}:{port}"]
    http2 := protocol.isHttp2 }

def inboundRoutes (cluster : Cluster) (address : String) (port : Nat) (checked : Bool) :
    RouteConfig :=
  ⟨[⟨s!"inbound|{port}", withPort port address,
    [{ HttpRoute.toCluster cluster with checked := checked }]⟩]⟩

/-- A listener on a port of the workload that forwards to it, with the cluster it forwards to;
none for protocols that are not proxied. -/
def inbound? (mesh : Mesh) (address : String) (port : Nat) (protocol : Protocol)
    (checked : Bool) : Option (Listener × Cluster) :=
  let cluster := inboundCluster mesh port protocol
  if protocol.isHttp then
    let checked := checked && mesh.mixerAddress.isSome
    let routes := inboundRoutes cluster address port checked
    some (.on "http" address port (.http (.ofRoutes (.written routes))), cluster)
  else if protocol.isTcp then
    some (.on "tcp" address port (.tcp [⟨cluster.name, [blockOf address], none⟩]), cluster)
  else none

/-- The listener for an instance of the workload, encrypted if the mesh asks for it. -/
def instanceInbound? (mesh : Mesh) (i : Instance) : Option (Listener × Cluster) :=
  (inbound? mesh i.endpoint.address i.endpoint.port i.endpoint.servicePort.protocol true).map
    fun (l, c) => (if mesh.isMutualTls then { l with tls := some (serverTls mesh) } else l, c)

/-- Ports for health checks that no instance serves. Checks are not encrypted. -/
def managementInbound (mesh : Mesh) (ip : String) (instances : List Instance)
    (ports : List Port) : List (Listener × Cluster) :=
  (ports.filter fun p => !instances.any (·.endpoint.port == p.number)).filterMap fun p =>
    inbound? mesh ip p.number p.protocol false

/-! ### The whole -/

/-- The first listener of each address, `seen` being those already taken. -/
def firstPerAddress (seen : List String) : List Listener → List Listener
  | [] => []
  | l :: ls =>
    if seen.contains l.address then firstPerAddress seen ls
    else l :: firstPerAddress (l.address :: seen) ls

def sortListeners (l : List Listener) : List Listener :=
  l.mergeSort fun a b => !textLt b.name a.name

def virtualListener (mesh : Mesh) : Listener :=
  ⟨"virtual", Listener.addressOf wildcard mesh.listenPort, none, none, true, true⟩

/-- The clusters of the routes and some more, each once, with policies and encryption laid over
them. -/
def finishClusters {ρ : Type} [Directory ρ] (mesh : Mesh) (registry : ρ)
    (policy : String → Tags → Option VersionPolicy) (table : RouteTable)
    (more : List Cluster) : Except Cluster.Conflict (List Cluster) :=
  (Cluster.distinct (table.clusters ++ more)).map fun clusters =>
    clusters.map fun c =>
      let c := applyPolicy policy c
      if mesh.isMutualTls then applyClientTls mesh registry c else c

/-- The filters of faults, then that of the mixer if there is one. -/
def insertFilters (mesh : Mesh) (node : Node) (table : RouteTable) (l : Listener) : Listener :=
  let l := insertFaults table l
  if mesh.mixerAddress.isSome then insertMixer node l else l

def mixerClusters (mesh : Mesh) : List Cluster :=
  (mesh.mixerAddress.map (mixerCluster mesh)).toList

/-- The settings of a sidecar, given the instances on its address, the services of the mesh and
the rules that apply to it. -/
def sidecar {ρ : Type} [Directory ρ] (mesh : Mesh) (registry : ρ)
    (policy : String → Tags → Option VersionPolicy) (node : Node) (instances : List Instance)
    (services : List Service) (rules : List RouteRule) : Except Cluster.Conflict Settings :=
  let ip := node.address.text
  let table := outboundRoutes mesh instances services rules
  let own := instances.filterMap (instanceInbound? mesh)
  let checks := managementInbound mesh ip instances
    ((Directory.managementPorts registry ip).getD [])
  let filtered := (own.map (·.1) ++ outboundListeners mesh table ++
    tcpListeners mesh services).map (insertFilters mesh node table)
  let listeners := sortListeners (firstPerAddress [] (filtered ++ checks.map (·.1)))
  let more := own.map (·.2) ++ tcpClusters mesh services ++ mixerClusters mesh ++
    checks.map (·.2)
  (finishClusters mesh registry policy table more).map fun clusters =>
    ⟨listeners ++ [virtualListener mesh], clusters, table⟩

end MeshControl.Build
