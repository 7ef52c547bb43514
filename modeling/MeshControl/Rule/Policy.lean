import MeshControl.Config.Message
import MeshControl.Rule.Condition

/-!
Destination policies: how proxies balance load over the versions of a service and when they
stop calling an instance.
-/
namespace MeshControl

inductive LoadBalancing where
  | roundRobin
  | leastConn
  | random
deriving DecidableEq, Repr, Inhabited

/-- Limits of a circuit breaker. Zero stands for what the proxy does by itself. -/
structure CircuitLimits where
  maxConnections : Int
  maxPendingRequests : Int
  maxRequests : Int
  sleepWindowSeconds : Float
  consecutiveErrors : Int
  detectionIntervalSeconds : Float
  maxRequestsPerConnection : Int
  maxEjectionPercent : Int
deriving BEq, Inhabited

structure CircuitBreaker where
  simple : Option CircuitLimits
deriving BEq, Inhabited

/-- The policy for the instances that carry some tags. -/
structure VersionPolicy where
  tags : Tags
  loadBalancing : Option LoadBalancing
  circuitBreaker : Option CircuitBreaker
deriving BEq, Inhabited

structure DestinationPolicy where
  destination : String
  versions : List VersionPolicy
deriving BEq, Inhabited

namespace LoadBalancing

def names : List (String × LoadBalancing) :=
  [("ROUND_ROBIN", roundRobin), ("LEAST_CONN", leastConn), ("RANDOM", random)]

def text : LoadBalancing → String
  | roundRobin => "ROUND_ROBIN"
  | leastConn => "LEAST_CONN"
  | random => "RANDOM"

/-- The mode is the one field of a record. -/
def json (b : LoadBalancing) : Json := .obj [("name", .str b.text)]

def decode {δ : Type} [Source δ] (d : δ) : Decoded LoadBalancing := do
  let r ← Decode.record ["name"] d
  r.required "name" (Decode.name names)

end LoadBalancing

namespace CircuitLimits

def none : CircuitLimits := ⟨0, 0, 0, 0.0, 0, 0.0, 0, 0⟩

def notNegative (what : String) (n : Int) : Problems :=
  problemIf (n < 0) s!"circuit breaker {what} must not be negative"

def validate (c : CircuitLimits) : Problems :=
  notNegative "max connections" c.maxConnections ++
  notNegative "max pending requests" c.maxPendingRequests ++
  notNegative "max requests" c.maxRequests ++
  notNegative "consecutive errors" c.consecutiveErrors ++
  notNegative "max requests per connection" c.maxRequestsPerConnection ++
  problemIf (c.sleepWindowSeconds < 0.0) "circuit breaker sleep window must not be negative" ++
  problemIf (c.detectionIntervalSeconds < 0.0)
    "circuit breaker detection interval must not be negative" ++
  Validation.percent "ejection" (Json.floatOfInt c.maxEjectionPercent)

def json (c : CircuitLimits) : Json :=
  .obj [
    ("maxConnections", .int c.maxConnections),
    ("httpMaxPendingRequests", .int c.maxPendingRequests),
    ("httpMaxRequests", .int c.maxRequests),
    ("sleepWindowSeconds", .double c.sleepWindowSeconds),
    ("httpConsecutiveErrors", .int c.consecutiveErrors),
    ("httpDetectionIntervalSeconds", .double c.detectionIntervalSeconds),
    ("httpMaxRequestsPerConnection", .int c.maxRequestsPerConnection),
    ("httpMaxEjectionPercent", .int c.maxEjectionPercent)]

def fieldNames : List String :=
  ["maxConnections", "httpMaxPendingRequests", "httpMaxRequests", "sleepWindowSeconds",
    "httpConsecutiveErrors", "httpDetectionIntervalSeconds", "httpMaxRequestsPerConnection",
    "httpMaxEjectionPercent"]

def decode {δ : Type} [Source δ] (d : δ) : Decoded CircuitLimits := do
  let r ← Decode.record fieldNames d
  let count (field : String) := r.withDefault field 0 Decode.int32
  let seconds (field : String) := r.withDefault field 0.0 Decode.number
  let maxConnections ← count "maxConnections"
  let maxPendingRequests ← count "httpMaxPendingRequests"
  let maxRequests ← count "httpMaxRequests"
  let sleepWindowSeconds ← seconds "sleepWindowSeconds"
  let consecutiveErrors ← count "httpConsecutiveErrors"
  let detectionIntervalSeconds ← seconds "httpDetectionIntervalSeconds"
  let maxRequestsPerConnection ← count "httpMaxRequestsPerConnection"
  let maxEjectionPercent ← count "httpMaxEjectionPercent"
  return ⟨maxConnections, maxPendingRequests, maxRequests, sleepWindowSeconds,
    consecutiveErrors, detectionIntervalSeconds, maxRequestsPerConnection, maxEjectionPercent⟩

end CircuitLimits

namespace CircuitBreaker

def json (c : CircuitBreaker) : Json :=
  Json.object [Json.optional "simpleCb" (c.simple.map CircuitLimits.json)]

def decode {δ : Type} [Source δ] (d : δ) : Decoded CircuitBreaker := do
  let r ← Decode.record ["simpleCb"] d
  let simple ← r.optional "simpleCb" CircuitLimits.decode
  return ⟨simple⟩

end CircuitBreaker

namespace VersionPolicy

def limits? (p : VersionPolicy) : Option CircuitLimits := p.circuitBreaker.bind (·.simple)

def json (p : VersionPolicy) : Json :=
  Json.object [
    Json.onlyIf (!p.tags.isEmpty) "tags" p.tags.json,
    Json.optional "loadBalancing" (p.loadBalancing.map LoadBalancing.json),
    Json.optional "circuitBreaker" (p.circuitBreaker.map CircuitBreaker.json)]

def decode {δ : Type} [Source δ] (d : δ) : Decoded VersionPolicy := do
  let r ← Decode.record ["tags", "loadBalancing", "circuitBreaker"] d
  let tags ← r.withDefault "tags" Tags.empty Tags.decode
  let loadBalancing ← r.optional "loadBalancing" LoadBalancing.decode
  let circuitBreaker ← r.optional "circuitBreaker" CircuitBreaker.decode
  return ⟨tags, loadBalancing, circuitBreaker⟩

end VersionPolicy

namespace DestinationPolicy

/-- The policy of the version with exactly these tags. -/
def version? (p : DestinationPolicy) (tags : Tags) : Option VersionPolicy :=
  p.versions.find? (·.tags == tags)

def repeatedText (tags : Tags) : String :=
  s!"duplicate policy for tags {Text.quote tags.text}"

/-- The problems of the versions, `seen` being the tags of those before them. -/
def validateVersions (seen : List Tags) : List VersionPolicy → Problems
  | [] => []
  | v :: vs =>
    v.tags.validate ++ problemIf (seen.contains v.tags) (repeatedText v.tags) ++
      (v.limits?.map CircuitLimits.validate).getD [] ++ validateVersions (v.tags :: seen) vs

def validate (p : DestinationPolicy) : Problems :=
  Validation.fqdn p.destination ++ validateVersions [] p.versions

def json (p : DestinationPolicy) : Json :=
  Json.object [
    Json.field "destination" (.str p.destination),
    Json.onlyIf (!p.versions.isEmpty) "policy" (.arr (p.versions.map VersionPolicy.json))]

def decode {δ : Type} [Source δ] (d : δ) : Decoded DestinationPolicy := do
  let r ← Decode.record ["destination", "policy"] d
  let destination ← r.required "destination" Decode.text
  let versions ← r.withDefault "policy" [] (Decode.list VersionPolicy.decode)
  return ⟨destination, versions⟩

instance : Config.Spec DestinationPolicy where
  messageName := "pilot.v1.DestinationPolicy"
  decode j := decode j
  encode p := p.json.normalize
  key := DestinationPolicy.destination
  validate p := .ok p.validate

end DestinationPolicy

end MeshControl
