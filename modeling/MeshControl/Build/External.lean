import MeshControl.Build.Destination
import MeshControl.Proxy.Listener

/-!
Services outside the mesh. Sidecars send requests for them to the egress proxy and keep the
host they are meant for; the egress proxy calls the outside name and puts it in the host.
-/
namespace MeshControl.Build

open Proxy

/-- The port that the egress proxy listens on. -/
def egressPort : Nat := 80

/-- The route from a sidecar to the egress proxy, if the mesh has one. -/
def egressRoute? (mesh : Mesh) (service : Service) (port : Port) : Option HttpRoute :=
  mesh.egressAddress.map fun address =>
    .toCluster (.ofHost (outboundName service.hostname port Tags.empty)
      mesh.connectTimeout.millis address port.protocol.isHttp2)

def outsideRoute (mesh : Mesh) (outside : String) (port : Port) : HttpRoute :=
  let host := s!"{outside}:{port.number}"
  let cluster := Cluster.ofHost s!"outbound:{host}" mesh.connectTimeout.millis host
    port.protocol.isHttp2
  { HttpRoute.toCluster cluster with renamesHost := true }

def outsideHost (mesh : Mesh) (hostname outside : String) (port : Port) : VirtualHost :=
  ⟨s!"{hostname}:{port.number}", withPort port.number hostname,
    [outsideRoute mesh outside port]⟩

/-- The virtual hosts of a service, none if it is inside the mesh. -/
def outsideHosts (mesh : Mesh) (service : Service) : List VirtualHost :=
  match service.externalName with
  | none => []
  | some outside =>
    (service.ports.filter (·.protocol.isHttp)).map (outsideHost mesh service.hostname outside)

def egressConfig (mesh : Mesh) (services : List Service) : RouteConfig :=
  .ofHosts (services.flatMap (outsideHosts mesh))

def egressListener (config : RouteConfig) : Listener :=
  { Listener.on "http" wildcard egressPort (.http (.ofRoutes (.written config))) with
    bindsToPort := true }

/-- The settings of the egress proxy. -/
def egress (mesh : Mesh) (services : List Service) : Except Cluster.Conflict Settings :=
  let config := egressConfig mesh services
  (Cluster.distinct config.clusters).map fun clusters =>
    ⟨[egressListener config], clusters, []⟩

end MeshControl.Build
