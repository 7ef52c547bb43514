import MeshControl.Config.Controller
import MeshControl.Config.Federation

/-!
Several controllers side by side. They share a clock, and what they report is put in the order
of time; reports of one moment stand in the order of the controllers.
-/
namespace MeshControl.Config

abbrev Caches (σ : Type) := Federation (Controller σ)

namespace Caches

variable {σ : Type} [Store σ]

def synced (c : Caches σ) : Bool := c.members.all (·.synced)

/-- Registers a handler with the controller that knows the type, if there is one. -/
def register (c : Caches σ) (type : String) (handler : Nat) : Caches σ :=
  (c.forType type () fun m => ((), m.register type handler)).2

def byTime (l : List Notice) : List Notice := l.mergeSort fun a b => decide (a.time ≤ b.time)

/-- Lets every controller act and collects the reports. -/
def gather (c : Caches σ) (act : Controller σ → Controller σ × List Notice) :
    Caches σ × List Notice :=
  let results := c.members.map act
  (⟨results.map (·.1)⟩, byTime (results.flatMap (·.2)))

def settle (c : Caches σ) (now : Nat) : Caches σ × List Notice := c.gather (·.settle now)

def advance (c : Caches σ) (now target : Nat) : Caches σ × List Notice :=
  c.gather (·.advance now target)

def start (c : Caches σ) (now : Nat) : Caches σ := ⟨c.members.map (·.start now)⟩

/-- Stops all controllers. The result holds the time when the last of them has stopped. -/
def stop (c : Caches σ) (now : Nat) : Caches σ × List Notice × Nat :=
  let results := c.members.map (·.stop now)
  (⟨results.map (·.1)⟩, byTime (results.flatMap (·.2.1)),
    results.foldl (fun t r => max t r.2.2) now)

end Caches

end MeshControl.Config
