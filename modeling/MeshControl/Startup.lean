import MeshControl.Agent.Attempts
import MeshControl.Agent.Certificates
import MeshControl.CommandLine.Arguments
import MeshControl.Config.Memory
import MeshControl.Config.Seed
import MeshControl.ControlPlane
import MeshControl.Mesh.Document
import MeshControl.Registry.File

/-!
What happens when the program starts: the settings of the mesh are loaded first, then the
services, then the configuration. The first step that fails ends the program.
-/
namespace MeshControl.Startup

open CommandLine

abbrev Plane := ControlPlane Registry.Memory Config.Memory

/-- Reads a file that has to be there. -/
def readFile (read : String → FileContent) (path : String) : Except Failure String :=
  Failure.context s!"failed to read {path}" (read path).read

def loadServices (read : String → FileContent) (path : String) :
    Except Failure Registry.Memory := do
  let loaded := Registry.Memory.empty.loadYaml (← readFile read path)
  match loaded.error with
  | none => return loaded.registry
  | some e => throw (e.failure.within s!"failed to load services from {path}")

def loadConfig (read : String → FileContent) (path : String) : Except Failure Config.Memory := do
  let (result, store) := Config.Seed.store (Config.Memory.new Rule.catalog) (← readFile read path)
  match result with
  | .ok _ => return store
  | .error e => throw (e.failure.within s!"failed to load config from {path}")

/-- The control plane of a discovery process that has just started. -/
def discovery (read : String → FileContent) (o : DiscoveryOptions) : Except Failure Plane := do
  let mesh ← Mesh.load o.meshConfig (read o.meshConfig)
  let registry ← match o.services with
    | some path => loadServices read path
    | none => pure Registry.Memory.empty
  let store ← match o.config with
    | some path => loadConfig read path
    | none => pure (Config.Memory.new Rule.catalog)
  return ControlPlane.new mesh registry store o.resyncPeriod.millis (!o.disableCache) true

/-- How the agent of a proxy starts it, and with which bootstrap at first. -/
def proxy (read : String → FileContent) (o : ProxyOptions) :
    Except Failure (Launch × Bootstrap) := do
  let mesh ← Mesh.load o.meshConfig (read o.meshConfig)
  let launch := Launch.ofMesh mesh o.node o.binaryPath o.configPath o.logLevel
  return (launch, Certificates.bootstrap mesh o.node.role read)

def restartOf (o : ProxyOptions) : Agent.Restart := ⟨o.retryBudget, o.retryDelay.millis⟩

/-- The end of a process that is shut down, which may go wrong. -/
def shutDown (orderly : Bool) : Except Failure Unit :=
  if orderly then .ok () else .error (.told ["Aborted"])

/-- A proxy process whose program exits by itself every time it is started, up to its end. There is
none if the program does not fail, because then it is not started again for that. -/
def giveUp (o : ProxyOptions) (launch : Launch) (b : Bootstrap) (p : Program) (f : Folder) :
    Except Failure Unit × Folder :=
  let (a, f) := Agent.attempts launch p (restartOf o) b f
  match a.phase with
  | .ended outcome => ((outcome.failure?.map fun text => .error (.told [text])).getD (.ok ()), f)
  | _ => (.ok (), f)

end MeshControl.Startup
