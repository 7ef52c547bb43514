import MeshControl.Agent.Bootstrap
import MeshControl.Json.Printer
import MeshControl.Node
import MeshControl.Path

/-!
How the agent starts the proxy and cleans up after it: the file with its bootstrap, the arguments
on its command line, and what can go wrong. The epochs of a proxy hand over to each other by a hot
restart, for which they need their numbers.
-/
namespace MeshControl

structure Launch where
  binary : String
  /-- The directory for the files with the configuration. -/
  directory : String
  serviceCluster : String
  node : Node
  drainSeconds : Nat
  parentShutdownSeconds : Nat
  logLevel : Option String

/-- What is at the path of a binary: nothing that can be started, or a program that exits by
itself with a status. -/
inductive Program where
  | missing
  | exits (status : Nat)
deriving DecidableEq, Repr

/-- The directory for the files with the configuration. -/
structure Folder where
  /-- Whether something stands in its path, so that it cannot be made. -/
  blocked : Bool
  /-- The names under which no file can be written. -/
  closed : List String
  files : Table String

def Folder.empty : Folder := ⟨false, [], Table.empty⟩

inductive LaunchError where
  | directory (path : String)
  | write (path : String)
  | start (binary : String)
  | exit (status : Nat)
deriving DecidableEq, Repr

def LaunchError.text : LaunchError → String
  | directory path => s!"failed to create {path}"
  | write path => s!"failed to write {path}"
  | start binary => s!"failed to start {binary}"
  | exit status => s!"proxy exited with exit status: {status}"

namespace Launch

def ofMesh (m : Mesh) (node : Node) (binary directory : String) (logLevel : Option String) :
    Launch where
  binary := binary
  directory := directory
  serviceCluster := m.serviceCluster
  node := node
  drainSeconds := m.drain.secondsUp
  parentShutdownSeconds := m.parentShutdown.secondsUp
  logLevel := logLevel

def fileName (epoch : Nat) : String := s!"envoy-rev{epoch}.json"

def configFile (l : Launch) (epoch : Nat) : String := Path.join l.directory (fileName epoch)

def arguments (l : Launch) (epoch : Nat) : List String :=
  [ "-c", l.configFile epoch,
    "--restart-epoch", toString epoch,
    "--drain-time-s", toString l.drainSeconds,
    "--parent-shutdown-time-s", toString l.parentShutdownSeconds,
    "--service-cluster", l.serviceCluster,
    "--service-node", l.node.text ] ++
  match l.logLevel with
  | some level => ["-l", level]
  | none => []

/-- How a program ends that is started, if it can be. -/
def spawn (l : Launch) : Program → Except LaunchError Unit
  | .missing => .error (.start l.binary)
  | .exits 0 => .ok ()
  | .exits status => .error (.exit status)

/-- Runs an epoch to its end. Nothing is started without a file for it. -/
def run (l : Launch) (b : Bootstrap) (epoch : Nat) (p : Program) (f : Folder) :
    Except LaunchError Unit × Folder :=
  if f.blocked then (.error (.directory l.directory), f)
  else if f.closed.contains (fileName epoch) then (.error (.write (l.configFile epoch)), f)
  else (l.spawn p, { f with files := f.files.insert (fileName epoch) b.json.pretty })

/-- Removes the file of an epoch, if there is one. -/
def cleanUp (epoch : Nat) (f : Folder) : Folder :=
  { f with files := f.files.erase (fileName epoch) }

end Launch

end MeshControl
