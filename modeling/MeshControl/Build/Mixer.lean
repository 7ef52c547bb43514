import MeshControl.Mesh
import MeshControl.Node
import MeshControl.Proxy.Listener

/-!
The mixer: a service that checks requests and takes reports of them.
-/
namespace MeshControl.Build

open Proxy

def mixerClusterName : String := "mixer_server"

/-- How many requests may be under way to the mixer. -/
def mixerRequests : Int := 10000

def mixerCluster (mesh : Mesh) (address : String) : Cluster :=
  { Cluster.ofHost mixerClusterName mesh.connectTimeout.millis address true with
    limits := some ⟨none, some mixerRequests, some mixerRequests⟩ }

/-- What the mixer is told of the workload behind a proxy. -/
def mixerAttributes (node : Node) : Table String :=
  Table.ofList [("target.ip", node.address.text), ("target.uid", s!"kubernetes://{node.id}")]

/-- Puts the mixer before all other filters. -/
def insertMixer (node : Node) (l : Listener) : Listener :=
  l.mapFilters fun m => .mixer (mixerAttributes node) :: m.filters

end MeshControl.Build
