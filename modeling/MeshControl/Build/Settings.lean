import MeshControl.Build.Ingress

/-!
The settings of any proxy, built from the mesh, a registry and a store of configuration. The
store is asked only for what the role of the proxy needs, and comes back with the result.
-/
namespace MeshControl.Build

open Proxy Registry Config

inductive BuildError where
  /-- Two clusters of one name differ. -/
  | conflict (name : String)
  | registry (e : StoreError)
deriving DecidableEq, Repr

def BuildError.text : BuildError → String
  | conflict name =>
    s!"cluster {Text.quote name} is defined more than once with different settings"
  | registry e => e.text

variable {ρ σ : Type} [Directory ρ] [Store σ]

def refuse {α : Type} (r : Except Cluster.Conflict α) : Except BuildError α :=
  r.mapError .conflict

/-- What a registry knows of a sidecar: the instances on its address and all services. -/
def surroundings (registry : ρ) (node : Node) :
    Except StoreError (List Instance × List Service) :=
  match Directory.hostInstances registry [node.address.text] with
  | .error e => .error e
  | .ok instances =>
    (Directory.services registry).map fun services => (instances, services)

def sidecarSettings (mesh : Mesh) (registry : ρ) (store : σ) (node : Node) :
    Except BuildError Settings × σ :=
  match surroundings registry node with
  | .error e => (.error (.registry e), store)
  | .ok (instances, services) =>
    let (rules, store) := Rule.routeRules store
    let policy := Rule.versionPolicy? store
    (refuse (sidecar mesh registry policy node instances services
      (Rule.fromSource instances rules)), store)

def ingressSettings (mesh : Mesh) (registry : ρ) (store : σ) (node : Node) :
    Except BuildError Settings × σ :=
  let (rules, store) := Rule.routeRules store
  let (ingressRules, store) := Rule.ingressRules store
  match edgeRoutes mesh registry (edgeRules rules) ingressRules with
  | .error e => (.error (.registry e), store)
  | .ok routes =>
    (refuse (ingress mesh registry (Rule.versionPolicy? store) node routes), store)

def egressSettings (mesh : Mesh) (registry : ρ) (store : σ) : Except BuildError Settings × σ :=
  match Directory.services registry with
  | .error e => (.error (.registry e), store)
  | .ok services => (refuse (egress mesh services), store)

def settings (mesh : Mesh) (registry : ρ) (store : σ) (node : Node) :
    Except BuildError Settings × σ :=
  match node.role with
  | .sidecar => sidecarSettings mesh registry store node
  | .ingress => ingressSettings mesh registry store node
  | .egress => egressSettings mesh registry store

end MeshControl.Build
