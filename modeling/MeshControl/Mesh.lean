import MeshControl.Duration
import MeshControl.Json.Source
import MeshControl.Service

/-!
Settings of the whole mesh, shared by the discovery service and the agents of proxies.
-/
namespace MeshControl

inductive IngressMode where
  | off
  | default
  | strict
deriving DecidableEq, Repr, Inhabited

inductive AuthPolicy where
  | none
  | mutualTls
deriving DecidableEq, Repr, Inhabited

structure Mesh where
  /-- Where proxies send calls to services outside the mesh. -/
  egressAddress : Option String
  discoveryAddress : String
  /-- Without it no mixer filters are written. -/
  mixerAddress : Option String
  statsdAddress : Option String
  /-- The port of a sidecar's virtual listener. -/
  listenPort : Nat
  adminPort : Nat
  drain : Duration
  parentShutdown : Duration
  refreshDelay : Duration
  connectTimeout : Duration
  /-- The cluster that proxies name when they call discovery. -/
  serviceCluster : String
  ingressClass : String
  ingressService : String
  ingressMode : IngressMode
  authPolicy : AuthPolicy
  /-- The directory with the certificates and the key of the workload. -/
  certsPath : String
deriving DecidableEq, Inhabited

namespace IngressMode

def names : List (String × IngressMode) :=
  [("OFF", off), ("DEFAULT", default), ("STRICT", strict)]

def text : IngressMode → String
  | off => "OFF"
  | default => "DEFAULT"
  | strict => "STRICT"

end IngressMode

namespace AuthPolicy

def names : List (String × AuthPolicy) := [("NONE", none), ("MUTUAL_TLS", mutualTls)]

def text : AuthPolicy → String
  | none => "NONE"
  | mutualTls => "MUTUAL_TLS"

end AuthPolicy

namespace Mesh

def default : Mesh where
  egressAddress := some "istio-egress:80"
  discoveryAddress := "istio-pilot:8080"
  mixerAddress := none
  statsdAddress := none
  listenPort := 15001
  adminPort := 15000
  drain := .ofSeconds 2
  parentShutdown := .ofSeconds 3
  refreshDelay := .ofSeconds 1
  connectTimeout := .ofSeconds 1
  serviceCluster := "istio-proxy"
  ingressClass := "istio"
  ingressService := "istio-ingress"
  ingressMode := .strict
  authPolicy := .none
  certsPath := "/etc/certs"

def isMutualTls (m : Mesh) : Bool := m.authPolicy == .mutualTls

/-! ### Validation -/

/-- A host and a port other than zero. -/
def isAddress (s : String) : Bool :=
  match Text.splitLast ':' s with
  | some (host, port) => !host.isEmpty && (Port.numberOfText? port).any (· != 0)
  | none => false

def addressProblems (what s : String) : Problems :=
  problemIf (!isAddress s) s!"{what} {Text.quote s} must be of the form host:port"

def optionalAddressProblems (what : String) (s : Option String) : Problems :=
  (s.map (addressProblems what)).getD []

def positive (what : String) (d : Duration) : Problems :=
  problemIf d.isZero s!"{what} must be positive"

def validate (m : Mesh) : Problems :=
  addressProblems "discovery address" m.discoveryAddress ++
  optionalAddressProblems "egress proxy address" m.egressAddress ++
  optionalAddressProblems "mixer address" m.mixerAddress ++
  optionalAddressProblems "statsd address" m.statsdAddress ++
  problemIf (m.listenPort == 0) "proxy listen port must not be 0" ++
  problemIf (m.adminPort == 0) "proxy admin port must not be 0" ++
  problemIf (m.listenPort == m.adminPort) "proxy listen and admin ports must differ" ++
  positive "drain duration" m.drain ++
  positive "parent shutdown duration" m.parentShutdown ++
  positive "discovery refresh delay" m.refreshDelay ++
  positive "connect timeout" m.connectTimeout ++
  problemIf m.serviceCluster.isEmpty "service cluster must not be empty"

/-! ### Texts -/

def json (m : Mesh) : Json :=
  Json.object [
    Json.optional "egressProxyAddress" (m.egressAddress.map .str),
    Json.field "discoveryAddress" (.str m.discoveryAddress),
    Json.optional "mixerAddress" (m.mixerAddress.map .str),
    Json.optional "statsdUdpAddress" (m.statsdAddress.map .str),
    Json.field "proxyListenPort" (.nat m.listenPort),
    Json.field "proxyAdminPort" (.nat m.adminPort),
    Json.field "drainDuration" m.drain.json,
    Json.field "parentShutdownDuration" m.parentShutdown.json,
    Json.field "discoveryRefreshDelay" m.refreshDelay.json,
    Json.field "connectTimeout" m.connectTimeout.json,
    Json.field "istioServiceCluster" (.str m.serviceCluster),
    Json.field "ingressClass" (.str m.ingressClass),
    Json.field "ingressService" (.str m.ingressService),
    Json.field "ingressControllerMode" (.str m.ingressMode.text),
    Json.field "authPolicy" (.str m.authPolicy.text),
    Json.field "authCertsPath" (.str m.certsPath)]

variable {δ : Type} [Source δ]

/-- How a field given under its name changes the settings. -/
def setters : List (String × (Mesh → δ → Decoded Mesh)) := [
  ("egressProxyAddress", fun m d =>
    (Decode.nullable Decode.text d).map fun v => { m with egressAddress := v }),
  ("discoveryAddress", fun m d =>
    (Decode.text d).map fun v => { m with discoveryAddress := v }),
  ("mixerAddress", fun m d =>
    (Decode.nullable Decode.text d).map fun v => { m with mixerAddress := v }),
  ("statsdUdpAddress", fun m d =>
    (Decode.nullable Decode.text d).map fun v => { m with statsdAddress := v }),
  ("proxyListenPort", fun m d =>
    (Decode.natBits 16 d).map fun v => { m with listenPort := v }),
  ("proxyAdminPort", fun m d =>
    (Decode.natBits 16 d).map fun v => { m with adminPort := v }),
  ("drainDuration", fun m d => (Duration.decode d).map fun v => { m with drain := v }),
  ("parentShutdownDuration", fun m d =>
    (Duration.decode d).map fun v => { m with parentShutdown := v }),
  ("discoveryRefreshDelay", fun m d =>
    (Duration.decode d).map fun v => { m with refreshDelay := v }),
  ("connectTimeout", fun m d =>
    (Duration.decode d).map fun v => { m with connectTimeout := v }),
  ("istioServiceCluster", fun m d =>
    (Decode.text d).map fun v => { m with serviceCluster := v }),
  ("ingressClass", fun m d => (Decode.text d).map fun v => { m with ingressClass := v }),
  ("ingressService", fun m d => (Decode.text d).map fun v => { m with ingressService := v }),
  ("ingressControllerMode", fun m d =>
    (Decode.name IngressMode.names d).map fun v => { m with ingressMode := v }),
  ("authPolicy", fun m d =>
    (Decode.name AuthPolicy.names d).map fun v => { m with authPolicy := v }),
  ("authCertsPath", fun m d => (Decode.text d).map fun v => { m with certsPath := v })]

def fieldNames : List String :=
  (setters : List (String × (Mesh → Json → Decoded Mesh))).map (·.1)

def setField (m : Mesh) (name : String) (d : δ) : Decoded Mesh :=
  match Entries.find? name setters with
  | some set => set m d
  | none => .ok m

/-- Reads settings in the order in which they are given. What is not given keeps its default. -/
def decode (d : δ) : Decoded Mesh := do
  let r ← Decode.record fieldNames d
  r.foldlM (fun m (name, d) => m.setField name d) default

end Mesh

end MeshControl
