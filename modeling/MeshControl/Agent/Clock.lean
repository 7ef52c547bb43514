import MeshControl.Agent.Basic

/-!
Agents on a clock that is given to them. The timer fires exactly when it is due, and an epoch
that is aborted exits at once.
-/
namespace MeshControl.Agent

variable {γ : Type} [DecidableEq γ]

/-- An action with the time when it is asked for. -/
structure Entry (γ : Type) where
  time : Nat
  action : Action γ

def stepAt (a : Agent γ) (now : Nat) (e : Event γ) : Agent γ × List (Entry γ) :=
  let (a, actions) := a.step now e
  (a, actions.map (⟨now, ·⟩))

/-- Reports the exit of epochs that were aborted. -/
def exitAll (a : Agent γ) (now : Nat) : List Nat → Agent γ × List (Entry γ)
  | [] => (a, [])
  | epoch :: epochs =>
    let (a, entries) := a.stepAt now (.exit epoch none)
    let (a, more) := exitAll a now epochs
    (a, entries ++ more)

/-- Takes one event. If it makes the agent stop, all epochs exit. -/
def take (a : Agent γ) (now : Nat) (e : Event γ) : Agent γ × List (Entry γ) :=
  let (a, entries) := a.stepAt now e
  match a.phase with
  | .stopping _ =>
    let (a, more) := a.exitAll now (a.epochs.map (·.1))
    (a, entries ++ more)
  | _ => (a, entries)

/-- Lets the timer fire as often as it is due up to the target. -/
def advanceWith : Nat → Nat → Agent γ → Agent γ × List (Entry γ)
  | 0, _, a => (a, [])
  | fuel + 1, target, a =>
    if a.phase = .running ∧ a.deadline ≤ target then
      let (a, entries) := a.take a.deadline .timer
      let (a, more) := advanceWith fuel target a
      (a, entries ++ more)
    else (a, [])

/-- Lets time pass up to the target. The timer moves on whenever it fires, so it fires at most
once for every millisecond. -/
def advance (a : Agent γ) (target : Nat) : Agent γ × List (Entry γ) :=
  advanceWith (target + 1 - a.deadline) target a

/-- Takes an event and then what is due at the same moment. -/
def takeDue (a : Agent γ) (now : Nat) (e : Event γ) : Agent γ × List (Entry γ) :=
  let (a, entries) := a.take now e
  let (a, more) := a.advance now
  (a, entries ++ more)

end MeshControl.Agent
