import MeshControl.Agent.Basic
import MeshControl.Agent.Launch

/-!
Attempts at a program that exits by itself each time it is started. A run is over before the agent
takes note of anything else, so there is never more than one; what the agent then asks to be cleaned
up is removed from the directory with the configuration.
-/
namespace MeshControl.Agent

def Action.cleanUpIn (f : Folder) : Action Bootstrap → Folder
  | .cleanUp epoch => Launch.cleanUp epoch f
  | _ => f

/-- The reason that the agent is told when a run has failed. -/
def reason? : Except LaunchError Unit → Option String
  | .ok () => none
  | .error e => some e.text

/-- Takes an event. If that starts an epoch, the epoch is run and its exit is reported. -/
def attempt (l : Launch) (p : Program) (now : Nat) (e : Event Bootstrap)
    (s : Agent Bootstrap × Folder) : Agent Bootstrap × Folder :=
  match s.1.step now e with
  | (a, [.start epoch config]) =>
    let (result, f) := l.run config epoch p s.2
    let (a, actions) := a.step now (.exit epoch (reason? result))
    (a, actions.foldl Action.cleanUpIn f)
  | (a, actions) => (a, actions.foldl Action.cleanUpIn s.2)

/-- Lets the timer fire a number of times, or until the agent has done its work. -/
def retry (l : Launch) (p : Program) : Nat → Agent Bootstrap × Folder → Agent Bootstrap × Folder
  | 0, s => s
  | n + 1, s =>
    if s.1.phase = .running then retry l p n (attempt l p s.1.deadline .timer s) else s

/-- The first attempt, and as many more as there is a budget for. -/
def attempts (l : Launch) (p : Program) (r : Restart) (b : Bootstrap) (f : Folder) :
    Agent Bootstrap × Folder :=
  retry l p r.budget (attempt l p 0 (.update b) (new r 0, f))

end MeshControl.Agent
