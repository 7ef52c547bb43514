import MeshControl.Mesh
import MeshControl.Proxy.Route
import MeshControl.Rule.Ingress
import MeshControl.ServiceKey

/-!
Routes to a port of a mesh service: one for each rule that applies, in the order of the rules,
then one for all other requests, unless a rule already takes every request. And the names under
which a proxy finds a service, which depend on the domain that its own services share.
-/
namespace MeshControl.Build

open Proxy

/-! ### Clusters -/

def outboundName (hostname : String) (port : Port) (tags : Tags) : String :=
  let name := s!"outbound:{hostname}|{port.name}"
  if tags.isEmpty then name else name ++ "|" ++ tags.text

/-- The cluster of one port and one set of tags of a mesh service. -/
def outboundCluster (mesh : Mesh) (hostname : String) (port : Port) (tags : Tags) : Cluster :=
  { Cluster.named (outboundName hostname port tags) mesh.connectTimeout.millis with
    serviceName := some (ServiceKey.encode hostname [port.name] [tags])
    http2 := port.protocol.isHttp2
    subset := some ⟨hostname, port, tags⟩ }

/-! ### Routes of rules -/

def millisOfSeconds (seconds : Float) : Nat := (seconds * 1000.0).round.toUInt64.toNat

/-- A share of requests in whole percent. -/
def wholePercent (percent : Float) : Nat := percent.toUInt32.toNat

def headerMatch (name : String) : TextMatch → Header
  | .exactly v => ⟨name, v, false⟩
  | .startingWith p => ⟨name, s!"^{p}.*", true⟩
  | .matching r => ⟨name, r, true⟩

/-- The conditions on headers other than the path, in the order of their names. -/
def headerMatches (h : HeaderMatches) : List Header :=
  (h.toList.filter (·.1 != Header.path)).map fun (name, m) => headerMatch name m

/-- The condition on the path. Patterns of paths cannot be expressed. -/
def pathMatch? (h : HeaderMatches) : Option PathMatch :=
  match h.find? Header.path with
  | none => some .any
  | some (.exactly p) => some (.exactly p)
  | some (.startingWith p) => some (.startingWith p)
  | some (.matching _) => none

def ruleHeaders (r : RouteRule) : HeaderMatches :=
  (r.condition.map (·.headers)).getD Table.empty

def destinationCluster (mesh : Mesh) (rule : RouteRule) (port : Port)
    (w : WeightedDestination) : Cluster :=
  outboundCluster mesh (w.destination.getD rule.destination) port w.tags

/-- The clusters a rule sends to, its own destination if it lists none. -/
def ruleClusters (mesh : Mesh) (rule : RouteRule) (port : Port) : List Cluster :=
  if rule.routes.isEmpty then [outboundCluster mesh rule.destination port Tags.empty]
  else rule.routes.map (destinationCluster mesh rule port)

/-- Several destinations share the traffic by weight, one takes it all. -/
def forwardTo (routes : List WeightedDestination) (clusters : List Cluster) : Forward :=
  match clusters with
  | [c] => .cluster c.name
  | cs => .weighted ((cs.map (·.name)).zip (routes.map (·.effectiveWeight routes.length)))

def retryPolicy (r : Retry) : RetryPolicy :=
  ⟨r.attempts,
    if 0.0 < r.perTrySeconds then some (millisOfSeconds r.perTrySeconds) else none⟩

def abortFault (a : Abort) : Option AbortFault :=
  if a.status = 0 then none else some ⟨wholePercent a.percent, a.status⟩

def delayFault (d : Delay) : Option DelayFault :=
  if 0.0 < d.seconds then some ⟨wholePercent d.percent, millisOfSeconds d.seconds⟩ else none

def faultFor (f : RequestFault) (cluster : Cluster) : Fault :=
  ⟨f.abort.bind abortFault, f.delay.bind delayFault, headerMatches f.headers, cluster.name⟩

def requestTimeout (rule : RouteRule) : Option Nat :=
  ((rule.timeout.bind (·.simple)).filter (0.0 < ·)).map millisOfSeconds

/-- The route that a rule describes, if it can be expressed. -/
def ruleRoute? (mesh : Mesh) (rule : RouteRule) (port : Port) : Option HttpRoute :=
  (pathMatch? (ruleHeaders rule)).map fun path =>
    let clusters := ruleClusters mesh rule port
    { path := path
      headers := headerMatches (ruleHeaders rule)
      forward := forwardTo rule.routes clusters
      timeoutMillis := requestTimeout rule
      retry := (rule.retries.bind (·.simple)).map retryPolicy
      checked := false
      renamesHost := false
      clusters := clusters
      faults := (rule.requestFault.map fun f => clusters.map (faultFor f)).getD [] }

def defaultRoute (mesh : Mesh) (service : Service) (port : Port) : HttpRoute :=
  .toCluster (outboundCluster mesh service.hostname port Tags.empty)

/-- Routes up to the first that takes every request, and the fallback if there is none. -/
def untilCatchAll (fallback : HttpRoute) : List HttpRoute → List HttpRoute
  | [] => [fallback]
  | r :: rs => if r.isCatchAll then [r] else r :: untilCatchAll fallback rs

def destinationRoutes (mesh : Mesh) (service : Service) (port : Port)
    (rules : List RouteRule) : List HttpRoute :=
  let own := rules.filter (·.destination == service.hostname)
  untilCatchAll (defaultRoute mesh service port) (own.filterMap (ruleRoute? mesh · port))

/-! ### Names of services -/

def labels (hostname : String) : List String := Text.split '.' hostname

/-- How many labels two names share at their ends. -/
def sharedAtEnd (a b : List String) : Nat :=
  ((a.reverse.zip b.reverse).takeWhile fun (x, y) => x == y).length

/-- The last labels that a list of names has in common. -/
def commonSuffix : List (List String) → List String
  | [] => []
  | first :: rest =>
    rest.foldl (fun shared l => shared.drop (shared.length - sharedAtEnd shared l)) first

def sharedSuffix (hostnames : List String) : List String :=
  commonSuffix (hostnames.map labels)

/-- A name, and the names that grow from it label by label. -/
def growing (host : String) : List String → List String
  | [] => []
  | l :: ls =>
    let longer := if host.isEmpty then l else host ++ "." ++ l
    longer :: growing longer ls

/-- The names of a service as seen from a domain: the name without the labels it shares with the
domain, and every longer one up to the whole. -/
def hostNames (hostname : String) (suffix : List String) : List String :=
  let all := labels hostname
  let shared := sharedAtEnd suffix all
  let head := Text.join "." (all.take (all.length - shared))
  (if head.isEmpty then [] else [head]) ++ growing head (all.drop (all.length - shared))

/-- A name with the port, and without it too on the standard port. -/
def withPort (port : Nat) (host : String) : List String :=
  if port = 80 then [s!"{host}:{port}", host] else [s!"{host}:{port}"]

def domains (service : Service) (port : Port) (suffix : List String) : List String :=
  (hostNames service.hostname suffix ++ service.address.toList).flatMap (withPort port.number)

def virtualHost (service : Service) (port : Port) (suffix : List String)
    (routes : List HttpRoute) : VirtualHost :=
  ⟨service.key port Tags.empty, domains service port suffix, routes⟩

end MeshControl.Build
