import MeshControl.Agent.Basic
import MeshControl.CommandLine.Grammar
import MeshControl.CommandLine.LogFilter
import MeshControl.Duration
import MeshControl.Json.Basic
import MeshControl.Node
import MeshControl.SocketAddress

/-!
The command line of the program: the command `discovery` runs the discovery service, the command
`proxy` runs a proxy under an agent.
-/
namespace MeshControl.CommandLine

structure DiscoveryOptions where
  meshConfig : String
  discoveryAddress : SocketAddress
  apiAddress : SocketAddress
  adminAddress : SocketAddress
  disableCache : Bool
  resyncPeriod : Duration
  /-- A file with services to load at the start. -/
  services : Option String
  /-- A file with configuration to store at the start. -/
  config : Option String
deriving DecidableEq, Repr

structure ProxyOptions where
  node : Node
  meshConfig : String
  /-- The directory for the proxy's files. -/
  configPath : String
  binaryPath : String
  logLevel : Option String
  retryBudget : Nat
  retryDelay : Duration
deriving DecidableEq, Repr

inductive Command where
  | discovery (options : DiscoveryOptions)
  | proxy (options : ProxyOptions)
deriving DecidableEq, Repr

def defaultMeshConfig : String := "/etc/istio/config/mesh"

/-! ### Values -/

section Values

variable {α β : Type}

def textOf (put : String → α → α) : Setter α := fun s a => .ok (put s a)

/-- A path is not empty. -/
def pathOf (put : String → α → α) : Setter α :=
  fun s a => if s.isEmpty then .error .impossibleValue else .ok (put s a)

def formOf (read? : String → Option β) (put : β → α → α) : Setter α :=
  fun s a =>
    match read? s with
    | some b => .ok (put b a)
    | none => .error .malformedValue

def durationOf (put : Duration → α → α) : Setter α :=
  fun s a =>
    match Duration.ofText s with
    | .ok d => .ok (put d a)
    | .error .outOfRange => .error .durationRange
    | .error _ => .error .malformedValue

def choiceOf (choices : List String) (put : String → α → α) : Setter α :=
  fun s a => if choices.contains s then .ok (put s a) else .error .impossibleValue

end Values

/-- A number of 32 bits; a sign may stand before it. -/
def readCount (s : String) : Option Nat :=
  let (negative, digits) := Decimal.splitSign s.toList
  (Decimal.allDigits? digits).filter fun n => n < UInt32.size && (!negative || n == 0)

/-! ### The command `discovery` -/

namespace DiscoveryOptions

def everywhere (port : Nat) : SocketAddress := ⟨.v4 0 0 0 0, 0, port⟩

def default : DiscoveryOptions where
  meshConfig := defaultMeshConfig
  discoveryAddress := everywhere 8080
  apiAddress := everywhere 8081
  adminAddress := everywhere 9990
  disableCache := false
  resyncPeriod := .ofSeconds 1
  services := none
  config := none

def addressOf (put : SocketAddress → DiscoveryOptions → DiscoveryOptions) :
    Setter DiscoveryOptions := formOf SocketAddress.ofText? put

def grammar : Grammar DiscoveryOptions where
  options := [
    ⟨"mesh-config", pathOf fun s o => { o with meshConfig := s }, none⟩,
    ⟨"discovery-addr", addressOf fun s o => { o with discoveryAddress := s }, none⟩,
    ⟨"api-addr", addressOf fun s o => { o with apiAddress := s }, none⟩,
    ⟨"admin-addr", addressOf fun s o => { o with adminAddress := s }, none⟩,
    ⟨"resync-period", durationOf fun d o => { o with resyncPeriod := d }, none⟩,
    ⟨"services", pathOf fun s o => { o with services := some s }, none⟩,
    ⟨"config", pathOf fun s o => { o with config := some s }, none⟩]
  switches := [⟨"disable-cache", none, fun o => .ok { o with disableCache := true }⟩]
  positions := []
  commands := []
  misplaced := .unknownArgument

def json (o : DiscoveryOptions) : Json :=
  .obj [
    ("meshConfig", .str o.meshConfig),
    ("discoveryAddr", .str o.discoveryAddress.text),
    ("apiAddr", .str o.apiAddress.text),
    ("adminAddr", .str o.adminAddress.text),
    ("disableCache", .bool o.disableCache),
    ("resyncPeriod", .str o.resyncPeriod.text),
    ("services", (o.services.map .str).getD .null),
    ("config", (o.config.map .str).getD .null)]

end DiscoveryOptions

/-! ### The command `proxy` -/

/-- What the words of the command have given so far. -/
structure ProxyWords where
  role : Option Role
  address : Option Address
  id : String
  domain : String
  meshConfig : String
  configPath : String
  binaryPath : String
  logLevel : Option String
  retryBudget : Nat
  retryDelay : Duration

namespace ProxyWords

def none : ProxyWords where
  role := Option.none
  address := Option.none
  id := ""
  domain := ""
  meshConfig := defaultMeshConfig
  configPath := "/etc/istio/proxy"
  binaryPath := "/usr/local/bin/envoy"
  logLevel := Option.none
  retryBudget := Agent.Restart.default.budget
  retryDelay := .ofMillis Agent.Restart.default.delay

def grammar : Grammar ProxyWords where
  options := [
    ⟨"ip-address", formOf Address.ofText? fun a o => { o with address := some a },
      some "INSTANCE_IP"⟩,
    ⟨"id", textOf fun s o => { o with id := s }, some "POD_NAME"⟩,
    ⟨"domain", textOf fun s o => { o with domain := s }, some "POD_NAMESPACE"⟩,
    ⟨"mesh-config", pathOf fun s o => { o with meshConfig := s }, Option.none⟩,
    ⟨"config-path", pathOf fun s o => { o with configPath := s }, Option.none⟩,
    ⟨"binary-path", pathOf fun s o => { o with binaryPath := s }, Option.none⟩,
    ⟨"proxy-log-level", choiceOf ["trace", "debug"] fun s o => { o with logLevel := some s },
      Option.none⟩,
    ⟨"retry-budget", formOf readCount fun n o => { o with retryBudget := n }, Option.none⟩,
    ⟨"retry-delay", durationOf fun d o => { o with retryDelay := d }, Option.none⟩]
  switches := []
  positions := [
    ⟨"role", formOf Role.ofText? fun r o => { o with role := some r }, Option.none⟩]
  commands := []
  misplaced := .unknownArgument

/-- The role and the address have to be given. -/
def options? (w : ProxyWords) : Option ProxyOptions := do
  let node : Node := ⟨← w.role, ← w.address, w.id, w.domain⟩
  return ⟨node, w.meshConfig, w.configPath, w.binaryPath, w.logLevel, w.retryBudget, w.retryDelay⟩

end ProxyWords

def ProxyOptions.json (o : ProxyOptions) : Json :=
  .obj [
    ("role", .str o.node.role.text),
    ("ip", .str o.node.address.text),
    ("id", .str o.node.id),
    ("domain", .str o.node.domain),
    ("meshConfig", .str o.meshConfig),
    ("configPath", .str o.configPath),
    ("binaryPath", .str o.binaryPath),
    ("proxyLogLevel", (o.logLevel.map .str).getD .null),
    ("retryBudget", .nat o.retryBudget),
    ("retryDelay", .str o.retryDelay.text)]

/-! ### The whole line -/

inductive LogFormat where
  | json
  | plain
deriving DecidableEq, Repr

def LogFormat.ofText? (s : String) : Option LogFormat :=
  match LogFilter.lowered s.toList with
  | "json" => some json
  | "plain" => some plain
  | _ => none

structure Arguments where
  logFilter : String
  logFormat : LogFormat
  command : Option Command

namespace Arguments

def none : Arguments := ⟨"pilot=info,warn", .plain, Option.none⟩

def readLogFilter (s : String) : Option String :=
  if LogFilter.isValid s then some s else Option.none

def readDiscovery (env : String → Option String) (line : List String) (a : Arguments) :
    Except UsageError Arguments := do
  let (options, _) ← DiscoveryOptions.grammar.read env .default line
  return { a with command := some (.discovery options) }

def readProxy (env : String → Option String) (line : List String) (a : Arguments) :
    Except UsageError Arguments := do
  let (words, _) ← ProxyWords.grammar.read env .none line
  match words.options? with
  | some options => return { a with command := some (.proxy options) }
  | Option.none => throw .missingArgument

def grammar (env : String → Option String) : Grammar Arguments where
  options := [
    ⟨"log-level", formOf readLogFilter fun s a => { a with logFilter := s }, some "PILOT_LOG"⟩,
    ⟨"log-format", formOf LogFormat.ofText? fun f a => { a with logFormat := f }, Option.none⟩]
  switches := [⟨"version", some 'V', fun _ => .error .version⟩]
  positions := []
  commands := [("discovery", readDiscovery env), ("proxy", readProxy env)]
  misplaced := .unknownCommand

/-- Reads the words after the name of the program. -/
def read (env : String → Option String) (line : List String) :
    Except UsageError (Arguments × Command) := do
  let (a, given) ← (grammar env).read env none line
  match a.command with
  | some command => return (a, command)
  | Option.none => throw (if given.isEmpty then .usage else .missingCommand)

end Arguments

def Command.json : Command → Json
  | discovery options => .obj [("discovery", options.json)]
  | proxy options => .obj [("proxy", options.json)]

end MeshControl.CommandLine
