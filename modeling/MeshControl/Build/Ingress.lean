import MeshControl.Build.Sidecar

/-!
Settings of the proxy at the edge. Ingress rules show ports of mesh services to the outside. The
authority a rule names selects its virtual host; rules with a secret are served on the port for
encrypted requests, all others on the plain one.
-/
namespace MeshControl.Build

open Proxy Registry

def plainPort : Nat := 80

def securePort : Nat := 443

/-- The virtual host of rules that do not name one authority exactly. -/
def anyHost : String := "*"

def ingressCertsDirectory : String := "/etc/istio/ingress-certs"

def ingressCertFile : String := "tls.crt"

def ingressKeyFile : String := "tls.key"

def authority (r : RouteRule) : String :=
  match (ruleHeaders r).find? Header.authority with
  | some (.exactly host) => host
  | _ => anyHost

/-- Requests come from outside, so rules for a source never apply. -/
def fromAnywhere (r : RouteRule) : Bool :=
  r.condition.all fun m => m.source.isNone && m.sourceTags.isEmpty

def edgeRules (rules : List RouteRule) : List RouteRule :=
  Rule.byPrecedence RouteRule.precedence (rules.filter fromAnywhere)

def isAuthority (h : Header) : Bool := h.name == Header.authority

def otherHeaders (headers : List Header) : List Header := headers.filter (!isAuthority ·)

/-- Whether a route takes the requests of a path and some headers at a host. A route that does
not ask for an authority takes all. -/
def samePredicate (path : PathMatch) (headers : List Header) (host : String)
    (r : HttpRoute) : Bool :=
  r.path == path && otherHeaders r.headers == otherHeaders headers &&
    (r.headers.find? isAuthority).all fun h => !h.isPattern && h.value == host

/-- The route of an ingress rule to a port of its service. The first route rule that asks for
the same requests lends its route; without one the ingress rule makes its own. -/
def edgeRoute? (mesh : Mesh) (rules : List RouteRule) (service : Service) (port : Port)
    (rule : RouteRule) : Option HttpRoute :=
  (pathMatch? (ruleHeaders rule)).bind fun path =>
    let own := rules.filter (·.destination == service.hostname)
    let headers := headerMatches (ruleHeaders rule)
    let route := (own.filterMap (ruleRoute? mesh · port)).find?
      (samePredicate path headers (authority rule))
    (route <|> ruleRoute? mesh rule port).map fun r =>
      { r with
        headers := otherHeaders r.headers
        checked := mesh.mixerAddress.isSome }

/-- The port of its service that a rule shows, if there is one for requests. -/
def shownPort? (r : IngressRule) (service : Service) : Option Port :=
  (r.servicePort.bind fun p => p.find? service.ports).filter (·.protocol.isHttp)

/-- A route with the host and the port it is served on. -/
structure EdgeRoute where
  secure : Bool
  host : String
  route : HttpRoute
deriving DecidableEq, Inhabited

def edgeRoutesOf {ρ : Type} [Directory ρ] (mesh : Mesh) (registry : ρ)
    (rules : List RouteRule) (r : IngressRule) : Except StoreError (List EdgeRoute) :=
  (Directory.service? registry r.rule.destination).map fun service =>
    (service.bind fun s => (shownPort? r s).bind fun p =>
      (edgeRoute? mesh rules s p r.rule).map fun route =>
        ⟨r.secret.isSome, authority r.rule, route⟩).toList

/-- The routes of all ingress rules in their order. Fails when the registry does. -/
def edgeRoutes {ρ : Type} [Directory ρ] (mesh : Mesh) (registry : ρ)
    (rules : List RouteRule) : List IngressRule → Except StoreError (List EdgeRoute)
  | [] => .ok []
  | r :: rs =>
    match edgeRoutesOf mesh registry rules r with
    | .error e => .error e
    | .ok routes => (edgeRoutes mesh registry rules rs).map (routes ++ ·)

/-- The virtual hosts of one port, by host. -/
def edgeConfig (secure : Bool) (routes : List EdgeRoute) : RouteConfig :=
  let own := (routes.filter (·.secure == secure)).map fun e => (e.host, e.route)
  .ofHosts ((Entries.group textLt own).map fun (host, routes) =>
    ⟨host, [host], HttpRoute.sortByPath routes⟩)

def edgeTable (routes : List EdgeRoute) : RouteTable :=
  [(plainPort, edgeConfig false routes), (securePort, edgeConfig true routes)]

def edgeListener (mesh : Mesh) (port : Nat) : Listener :=
  { Listener.discovering port mesh.refreshDelay.millis with bindsToPort := true }

def edgeTls : ServerTls :=
  ⟨inDirectory ingressCertsDirectory ingressCertFile,
    inDirectory ingressCertsDirectory ingressKeyFile, none, false⟩

/-- The listener for encrypted requests stands only when it has something to serve. -/
def edgeListeners (mesh : Mesh) (table : RouteTable) : List Listener :=
  let served := (table.find? securePort).any fun c => !c.hosts.isEmpty
  edgeListener mesh plainPort ::
    if served then [{ edgeListener mesh securePort with tls := some edgeTls }] else []

/-- The settings of the ingress proxy, given its routes. -/
def ingress {ρ : Type} [Directory ρ] (mesh : Mesh) (registry : ρ)
    (policy : String → Tags → Option VersionPolicy) (node : Node) (routes : List EdgeRoute) :
    Except Cluster.Conflict Settings :=
  let table := edgeTable routes
  let listeners := (edgeListeners mesh table).map (insertFilters mesh node table)
  (finishClusters mesh registry policy table (mixerClusters mesh)).map fun clusters =>
    ⟨listeners, clusters, table⟩

end MeshControl.Build
