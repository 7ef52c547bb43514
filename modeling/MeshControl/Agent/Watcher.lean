import MeshControl.Agent.Certificates
import MeshControl.Agent.Clock

/-!
A watcher looks at the certificates of a proxy at every tick of its interval, first when it
starts, and schedules a bootstrap for the agent whenever it is another one than the last.
-/
namespace MeshControl

/-- What does not change while a watcher runs. -/
structure Watch where
  mesh : Mesh
  role : Role
  interval : Nat

structure Watcher where
  watch : Watch
  /-- When the next tick is due. -/
  tick : Nat
  last : Option Bootstrap

namespace Watcher

def defaultInterval : Nat := 10000

def new (w : Watch) (now : Nat) : Watcher := ⟨w, now, none⟩

/-- Looks at the certificates. The result holds the bootstrap if it has changed. -/
def look (w : Watcher) (read : String → FileContent) : Watcher × Option Bootstrap :=
  let b := Certificates.bootstrap w.watch.mesh w.watch.role read
  let w := { w with tick := w.tick + w.watch.interval }
  if w.last = some b then (w, none) else ({ w with last := some b }, some b)

end Watcher

/-- A watcher and the agent that it feeds. -/
structure Supervisor where
  watcher : Watcher
  agent : Agent Bootstrap

namespace Supervisor

open Agent

def new (w : Watch) (restart : Restart) (now : Nat) : Supervisor := ⟨.new w now, .new restart now⟩

/-- Looks at the certificates at every tick before the target. What was seen at the moment of
the target itself has its effect later. -/
def advanceWith (read : String → FileContent) :
    Nat → Nat → Supervisor → Supervisor × List (Entry Bootstrap)
  | 0, _, s => (s, [])
  | fuel + 1, target, s =>
    if s.watcher.tick < target then
      let now := s.watcher.tick
      let (agent, before) := s.agent.advance now
      let (watcher, change) := s.watcher.look read
      let (agent, entries) := match change with
        | some b => agent.takeDue now (.update b)
        | none => (agent, [])
      let (s, more) := advanceWith read fuel target ⟨watcher, agent⟩
      (s, before ++ entries ++ more)
    else
      let (agent, entries) := s.agent.advance target
      ({ s with agent }, entries)

def advance (s : Supervisor) (read : String → FileContent) (target : Nat) :
    Supervisor × List (Entry Bootstrap) :=
  s.advanceWith read (target + 1 - s.watcher.tick) target

def stop (s : Supervisor) (now : Nat) : Supervisor × List (Entry Bootstrap) :=
  let (agent, entries) := s.agent.take now .shutdown
  ({ s with agent }, entries)

end Supervisor

end MeshControl
