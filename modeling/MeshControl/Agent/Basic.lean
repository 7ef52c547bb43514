/-!
An agent runs a proxy and keeps it in step with a desired configuration. Every start of the
proxy is an epoch; a new epoch takes over from those before it, which may go on for a while.

The agent reacts to events, one at a time, and tells what is to be done. An epoch that fails
and leaves the desired configuration without a run is started again after a delay that doubles
with every attempt, as often as its budget allows. An agent that gives up or is shut down aborts
all epochs and has ended when the last of them has exited. Time is in milliseconds.
-/
namespace MeshControl

namespace Agent

/-- How often a configuration is started again, and the delay before the first time. -/
structure Restart where
  budget : Nat
  delay : Nat
deriving DecidableEq, Repr, Inhabited

namespace Restart

def default : Restart := ⟨10, 200⟩

/-- Two to the given power within 32 bits. -/
def factor (n : Nat) : Nat := if n < 32 then Nat.pow 2 n else UInt32.size - 1

/-- The delay before the next attempt when a number of attempts is left. -/
def backoff (r : Restart) (left : Nat) : Nat := r.delay * factor (r.budget - left + 1)

end Restart

/-- How the work of an agent ends. -/
inductive Outcome where
  | stopped
  /-- The attempts are used up; the text says why the last epoch failed. -/
  | exhausted (attempts : Nat) (reason : String)
deriving DecidableEq, Repr

def Outcome.failure? : Outcome → Option String
  | stopped => none
  | exhausted attempts reason =>
    some s!"proxy failed to start after {attempts} retries: {reason}"

inductive Phase where
  | running
  /-- All epochs are aborted, and some have not exited yet. -/
  | stopping (outcome : Outcome)
  | ended (outcome : Outcome)
deriving DecidableEq, Repr

end Agent

/-- An agent for configurations of type `γ`. -/
structure Agent (γ : Type) where
  restart : Agent.Restart
  desired : Option γ
  /-- The configuration that the proxy was brought to. While the agent runs that is the one of the
  newest epoch. -/
  current : Option γ
  /-- The epochs that have not exited and their configurations, the newest first. -/
  epochs : List (Nat × γ)
  /-- The attempts that are left for the desired configuration. -/
  budget : Nat
  /-- When the timer fires. -/
  deadline : Nat
  phase : Agent.Phase

namespace Agent

inductive Event (γ : Type) where
  | update (config : γ)
  /-- An epoch has exited, with a reason if it failed. -/
  | exit (epoch : Nat) (failure : Option String)
  | timer
  | shutdown

/-- What the agent asks for. -/
inductive Action (γ : Type) where
  | start (epoch : Nat) (config : γ)
  | abort (epoch : Nat)
  /-- Remove what an epoch has left behind. -/
  | cleanUp (epoch : Nat)
  | finish (outcome : Outcome)

variable {γ : Type}

/-- The period of the timer while no epoch is to be started again: one hour. -/
def idle : Nat := 3600000

def new (restart : Restart) (now : Nat) : Agent γ :=
  ⟨restart, none, none, [], restart.budget, now + idle, .running⟩

/-- The configuration of the newest epoch. -/
def newest (a : Agent γ) : Option γ := a.epochs.head?.map (·.2)

def nextEpoch (a : Agent γ) : Nat := ((a.epochs.head?).map (·.1 + 1)).getD 0

def isLive (a : Agent γ) (epoch : Nat) : Bool := a.epochs.any (·.1 == epoch)

variable [DecidableEq γ]

/-- Starts the desired configuration unless it is the current one. -/
def reconcile (a : Agent γ) : Agent γ × List (Action γ) :=
  match a.desired with
  | none => (a, [])
  | some config =>
    if a.current = some config then (a, [])
    else
      ({ a with epochs := (a.nextEpoch, config) :: a.epochs, current := some config },
        [.start a.nextEpoch config])

theorem reconcile_of_none {a : Agent γ} (h : a.desired = none) : a.reconcile = (a, []) := by
  unfold reconcile
  rw [h]

def finish (a : Agent γ) (outcome : Outcome) : Agent γ × List (Action γ) :=
  ({ a with phase := .ended outcome, current := none }, [.finish outcome])

/-- Aborts all epochs. -/
def stop (a : Agent γ) (outcome : Outcome) : Agent γ × List (Action γ) :=
  if a.epochs.isEmpty then a.finish outcome
  else ({ a with phase := .stopping outcome }, a.epochs.map fun e => .abort e.1)

/-- A different configuration gets the whole budget, and no attempt is pending any more. -/
def update (a : Agent γ) (now : Nat) (config : γ) : Agent γ × List (Action γ) :=
  if a.desired = some config then (a, [])
  else
    { a with desired := some config, budget := a.restart.budget, deadline := now + idle }.reconcile

def timer (a : Agent γ) (now : Nat) : Agent γ × List (Action γ) :=
  { a with deadline := now + idle }.reconcile

/-- Decides what follows from the failure of an epoch that is no longer live. -/
def failed (a : Agent γ) (now : Nat) (reason : String) : Agent γ × List (Action γ) :=
  if a.desired = a.current then (a, [])
  else if a.budget = 0 then a.stop (.exhausted a.restart.budget reason)
  else
    ({ a with deadline := now + a.restart.backoff a.budget, budget := a.budget - 1 }, [])

/-- Decides what follows from an exit. A clean one is not made up for. -/
def exited (a : Agent γ) (now : Nat) : Option String → Agent γ × List (Action γ)
  | none => (a, [])
  | some reason => a.failed now reason

def removed (a : Agent γ) (epoch : Nat) : Agent γ :=
  { a with epochs := a.epochs.filter (·.1 != epoch) }

def exit (a : Agent γ) (now epoch : Nat) (failure : Option String) :
    Agent γ × List (Action γ) :=
  let a := a.removed epoch
  let (a, actions) := match a.phase with
    | .running => { a with current := a.newest }.exited now failure
    | .stopping outcome => if a.epochs.isEmpty then a.finish outcome else (a, [])
    | .ended _ => (a, [])
  (a, .cleanUp epoch :: actions)

/-- Reacts to an event. Exits count only for live epochs, all else only for a running agent. -/
def step (a : Agent γ) (now : Nat) (e : Event γ) : Agent γ × List (Action γ) :=
  match e, a.phase with
  | .exit epoch failure, _ => if a.isLive epoch then a.exit now epoch failure else (a, [])
  | .update config, .running => a.update now config
  | .timer, .running => a.timer now
  | .shutdown, .running => a.stop .stopped
  | _, _ => (a, [])

theorem step_timer_of_ne {a : Agent γ} (h : a.phase ≠ .running) (now : Nat) :
    a.step now .timer = (a, []) := by
  cases hphase : a.phase <;> simp_all [step]

theorem step_shutdown_of_ne {a : Agent γ} (h : a.phase ≠ .running) (now : Nat) :
    a.step now .shutdown = (a, []) := by
  cases hphase : a.phase <;> simp_all [step]

end Agent

end MeshControl
