import MeshControl.Build.Destination
import MeshControl.Proxy.Listener
import MeshControl.Registry.Directory
import MeshControl.Rule.Policy

/-!
What is laid over clusters and listeners once they are known: destination policies, the
certificates of mutual TLS, filters for faults and for the mixer.
-/
namespace MeshControl.Build

open Proxy Registry

/-! ### Destination policies -/

def defaultEjectionPercent : Int := 10

def positive (n : Int) : Option Int := if 0 < n then some n else none

def positiveMillis (seconds : Float) : Option Nat :=
  if 0.0 < seconds then some (millisOfSeconds seconds) else none

def balancing : LoadBalancing → Balancing
  | .roundRobin => .roundRobin
  | .leastConn => .leastRequest
  | .random => .random

/-- A circuit breaker limits connections and leaves out hosts that fail. -/
def withLimits (l : CircuitLimits) (c : Cluster) : Cluster :=
  { c with
    maxRequestsPerConnection := positive l.maxRequestsPerConnection
    limits := some
      ⟨positive l.maxConnections, positive l.maxPendingRequests, positive l.maxRequests⟩
    ejection := some
      ⟨positive l.consecutiveErrors, positiveMillis l.detectionIntervalSeconds,
        positiveMillis l.sleepWindowSeconds,
        (positive l.maxEjectionPercent).getD defaultEjectionPercent⟩ }

def withBalancing (b : LoadBalancing) (c : Cluster) : Cluster :=
  { c with balancing := balancing b }

def withPolicy (p : VersionPolicy) (c : Cluster) : Cluster :=
  let c := match p.loadBalancing with
    | some b => withBalancing b c
    | none => c
  match p.limits? with
  | some l => withLimits l c
  | none => c

/-- Applies the policy of the service behind a cluster, if it has one. -/
def applyPolicy (policy : String → Tags → Option VersionPolicy) (c : Cluster) : Cluster :=
  match c.subset.bind fun s => policy s.hostname s.tags with
  | some p => withPolicy p c
  | none => c

/-! ### Mutual TLS -/

def certChainFile : String := "cert-chain.pem"

def keyFile : String := "key.pem"

def rootCertFile : String := "root-cert.pem"

def inDirectory (directory file : String) : String :=
  Text.dropTrailing '/' directory ++ "/" ++ file

/-- Callers have to show a certificate of the mesh. -/
def serverTls (mesh : Mesh) : ServerTls :=
  ⟨inDirectory mesh.certsPath certChainFile, inDirectory mesh.certsPath keyFile,
    some (inDirectory mesh.certsPath rootCertFile), true⟩

def clientTls (mesh : Mesh) (identities : List String) : ClientTls :=
  ⟨inDirectory mesh.certsPath certChainFile, inDirectory mesh.certsPath keyFile,
    inDirectory mesh.certsPath rootCertFile, identities⟩

/-- Calls to a mesh service are encrypted and expect one of the identities that serve it. -/
def applyClientTls {ρ : Type} [Directory ρ] (mesh : Mesh) (registry : ρ) (c : Cluster) :
    Cluster :=
  match c.subset with
  | some s =>
    { c with tls := some (clientTls mesh (Directory.accounts registry s.hostname [s.port.name])) }
  | none => c

/-! ### Filters -/

/-- Puts a filter for every fault of the routes a listener serves before its router. -/
def insertFaults (table : RouteTable) (l : Listener) : Listener :=
  l.mapFilters fun m =>
    let faults := ((m.routes.config? table).map (·.faults)).getD []
    HttpManager.insertBeforeRouter (faults.map .fault) m.filters

end MeshControl.Build
