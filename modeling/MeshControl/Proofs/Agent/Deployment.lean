import Mathlib.Logic.Relation
import MeshControl.Proofs.Agent.History

/-!
An agent among the runs that it has started. A run exits when it likes, and the agent is told of
the exits one after the other, at any time later. Between that configurations are scheduled, the
timer fires and the agent is shut down, in any order.

All that a move can do is said once, by the turns; nothing else looks into the moves.
-/
namespace MeshControl.Agent

structure Deployment (γ : Type) where
  agent : Agent γ
  /-- The runs that have not exited. -/
  running : List (Run γ)
  /-- The exits that the agent is still to be told of, with the reasons of those that failed, the
  first first. -/
  reports : List (Run γ × Option String)
  history : History γ

inductive Move (γ : Type) where
  | update (now : Nat) (config : γ)
  | exit (run : Run γ) (failure : Option String)
  /-- The agent is told of an exit. -/
  | receive (now : Nat)
  | timer (now : Nat)
  | shutdown (now : Nat)

namespace Deployment

variable {γ : Type}

def new (restart : Restart) (now : Nat) : Deployment γ := ⟨.new restart now, [], [], []⟩

def note (d : Deployment γ) (record : Record γ) : Deployment γ :=
  { d with history := record :: d.history }

/-- Does what the agent asks for. -/
def act (d : Deployment γ) : Action γ → Deployment γ
  | .start epoch config =>
    let run : Run γ := ⟨d.history.length, epoch, config⟩
    { d.note (.started run) with running := run :: d.running }
  | .abort epoch => d.note (.aborted epoch)
  | .cleanUp epoch => d.note (.cleaned epoch)
  | .finish outcome => d.note (.finished outcome)

/-- Lets the agent work, and does what it asks for. -/
def perform (d : Deployment γ) (work : Agent γ → Agent γ × List (Action γ)) : Deployment γ :=
  (work d.agent).2.foldl act { d with agent := (work d.agent).1 }

/-- The agent starts a run of a configuration. -/
def begun (d : Deployment γ) (config : γ) : Deployment γ :=
  let run : Run γ := ⟨d.history.length, d.agent.nextEpoch, config⟩
  { agent :=
      { d.agent with epochs := (run.epoch, config) :: d.agent.epochs, current := some config }
    running := run :: d.running
    reports := d.reports
    history := .started run :: d.history }

/-- The agent is told of the exit of a run and cleans up after it. -/
def told (d : Deployment γ) (run : Run γ) (failure : Option String)
    (reports : List (Run γ × Option String)) : Deployment γ :=
  { agent := d.agent.removed run.epoch
    running := d.running
    reports := reports
    history := .cleaned run.epoch :: .received run failure :: d.history }

/-- The agent takes the configuration of the newest epoch for the current one. -/
def caughtUp (d : Deployment γ) : Deployment γ :=
  { d with agent := { d.agent with current := d.agent.newest } }

variable [DecidableEq γ]

def move (d : Deployment γ) : Move γ → Deployment γ
  | .update now config =>
    if d.agent.phase = .running then
      (d.note (.scheduled config)).perform (·.step now (.update config))
    else d
  | .exit run failure =>
    if run ∈ d.running then
      { d with running := d.running.erase run, reports := d.reports ++ [(run, failure)] }
    else d
  | .receive now =>
    match d.reports with
    | [] => d
    | (run, failure) :: reports =>
      ({ d with reports }.note (.received run failure)).perform
        (·.step now (.exit run.epoch failure))
  | .timer now => d.perform (·.step now .timer)
  | .shutdown now => d.perform (·.step now .shutdown)

def after (d : Deployment γ) (moves : List (Move γ)) : Deployment γ := moves.foldl move d

/-! ### Turns -/

/-- What a move may do, bit by bit. -/
inductive Turn (d : Deployment γ) : Deployment γ → Prop
  | wait (deadline : Nat) : Turn d { d with agent := { d.agent with deadline } }
  | exit {run : Run γ} (failure : Option String) (hrun : run ∈ d.running) :
      Turn d { d with running := d.running.erase run, reports := d.reports ++ [(run, failure)] }
  | again {config : γ} (hphase : d.agent.phase = .running)
      (hsame : d.agent.desired = some config) : Turn d (d.note (.scheduled config))
  | schedule {config : γ} (hphase : d.agent.phase = .running)
      (hother : d.agent.desired ≠ some config) :
      Turn d { d.note (.scheduled config) with
        agent := { d.agent with desired := some config, budget := d.agent.restart.budget } }
  | start {config : γ} (hphase : d.agent.phase = .running)
      (hdesired : d.agent.desired = some config) (hcurrent : d.agent.current ≠ some config) :
      Turn d (d.begun config)
  | settle {run : Run γ} {failure : Option String} {reports : List (Run γ × Option String)}
      (hphase : d.agent.phase = .running) (hreports : d.reports = (run, failure) :: reports)
      (hfine : failure = none ∨ d.agent.desired = (d.agent.removed run.epoch).newest) :
      Turn d (d.told run failure reports).caughtUp
  | retry {run : Run γ} {reason : String} {reports : List (Run γ × Option String)}
      (deadline : Nat) (hphase : d.agent.phase = .running)
      (hreports : d.reports = (run, some reason) :: reports)
      (hlost : d.agent.desired ≠ (d.agent.removed run.epoch).newest)
      (hbudget : d.agent.budget ≠ 0) :
      Turn d { (d.told run (some reason) reports).caughtUp with
        agent := { (d.told run (some reason) reports).caughtUp.agent with
          deadline, budget := d.agent.budget - 1 } }
  | giveUp {run : Run γ} {reason : String} {reports : List (Run γ × Option String)}
      (hphase : d.agent.phase = .running) (hreports : d.reports = (run, some reason) :: reports)
      (hlost : d.agent.desired ≠ (d.agent.removed run.epoch).newest)
      (hbudget : d.agent.budget = 0) :
      Turn d ((d.told run (some reason) reports).caughtUp.perform
        (·.stop (.exhausted d.agent.restart.budget reason)))
  | drain {run : Run γ} {failure : Option String} {reports : List (Run γ × Option String)}
      {outcome : Outcome} (hphase : d.agent.phase = .stopping outcome)
      (hreports : d.reports = (run, failure) :: reports)
      (hleft : (d.agent.removed run.epoch).epochs ≠ []) : Turn d (d.told run failure reports)
  | finish {run : Run γ} {failure : Option String} {reports : List (Run γ × Option String)}
      {outcome : Outcome} (hphase : d.agent.phase = .stopping outcome)
      (hreports : d.reports = (run, failure) :: reports)
      (hleft : (d.agent.removed run.epoch).epochs = []) :
      Turn d ((d.told run failure reports).perform (·.finish outcome))
  | shutdown (hphase : d.agent.phase = .running) : Turn d (d.perform (·.stop .stopped))

/-- An agent that is to be told of a run has not ended, and to it the run is a live epoch. -/
def Expects (d : Deployment γ) (run : Run γ) : Prop :=
  d.agent.isLive run.epoch = true ∧ ∀ outcome, d.agent.phase ≠ .ended outcome

open Relation

variable {d : Deployment γ}

omit [DecidableEq γ] in
theorem perform_of_quiet {work : Agent γ → Agent γ × List (Action γ)}
    (hquiet : work d.agent = (d.agent, [])) : d.perform work = d := by
  rw [perform, hquiet]
  rfl

theorem turns_reconcile (hphase : d.agent.phase = .running) :
    ReflTransGen Turn d (d.perform (·.reconcile)) := by
  cases hdesired : d.agent.desired with
  | none =>
    rw [perform_of_quiet (reconcile_of_none hdesired)]
  | some config =>
    by_cases hcurrent : d.agent.current = some config
    · have hquiet : d.agent.reconcile = (d.agent, []) := by simp [reconcile, hdesired, hcurrent]
      rw [perform_of_quiet hquiet]
    · have hbegun : d.perform (·.reconcile) = d.begun config := by
        simp [perform, reconcile, hdesired, hcurrent, act, note, begun]
      rw [hbegun]
      exact .single (.start hphase hdesired hcurrent)

theorem turns_update (hphase : d.agent.phase = .running) (now : Nat) (config : γ) :
    ReflTransGen Turn d ((d.note (.scheduled config)).perform (·.step now (.update config))) := by
  have hstep : (d.note (.scheduled config)).perform (·.step now (.update config)) =
      (d.note (.scheduled config)).perform (·.update now config) := by
    simp [perform, step, note, hphase]
  rw [hstep]
  by_cases hsame : d.agent.desired = some config
  · have hupdate : (d.note (.scheduled config)).perform (·.update now config) =
        d.note (.scheduled config) := by
      simp [perform, update, note, hsame]
    rw [hupdate]
    exact .single (.again hphase hsame)
  · let scheduled : Deployment γ := { d.note (.scheduled config) with
      agent := { d.agent with desired := some config, budget := d.agent.restart.budget } }
    let idled : Deployment γ := { scheduled with
      agent := { scheduled.agent with deadline := now + idle } }
    have hupdate : (d.note (.scheduled config)).perform (·.update now config) =
        idled.perform (·.reconcile) := by
      simp [perform, update, note, hsame, idled, scheduled]
    rw [hupdate]
    have hscheduled : Turn d scheduled := .schedule hphase hsame
    have hidled : Turn scheduled idled := .wait (now + idle)
    exact (ReflTransGen.single hscheduled).tail hidled |>.trans (turns_reconcile hphase)

theorem turns_receive {run : Run γ} {failure : Option String}
    {reports : List (Run γ × Option String)} (hreports : d.reports = (run, failure) :: reports)
    (hexpects : d.Expects run) (now : Nat) :
    ReflTransGen Turn d (({ d with reports }.note (.received run failure)).perform
      (·.step now (.exit run.epoch failure))) := by
  obtain ⟨hlive, hgoes⟩ := hexpects
  have hstep : ({ d with reports }.note (.received run failure)).perform
      (·.step now (.exit run.epoch failure)) =
      ({ d with reports }.note (.received run failure)).perform
        (·.exit now run.epoch failure) := by
    simp [perform, step, note, hlive]
  rw [hstep]
  have hremoved : (d.agent.removed run.epoch).phase = d.agent.phase := rfl
  cases hphase : d.agent.phase with
  | ended outcome => exact absurd hphase (hgoes outcome)
  | stopping outcome =>
    by_cases hleft : (d.agent.removed run.epoch).epochs = []
    · have hfinish : ({ d with reports }.note (.received run failure)).perform
          (·.exit now run.epoch failure) =
          (d.told run failure reports).perform (·.finish outcome) := by
        simp [perform, Agent.exit, note, hremoved, hphase, hleft, Agent.finish, act, told]
      rw [hfinish]
      exact .single (.finish hphase hreports hleft)
    · have hdrain : ({ d with reports }.note (.received run failure)).perform
          (·.exit now run.epoch failure) = d.told run failure reports := by
        simp [perform, Agent.exit, note, hremoved, hphase, hleft, act, told]
      rw [hdrain]
      exact .single (.drain hphase hreports hleft)
  | running =>
    -- What remains is decided by the agent that has caught up.
    have hexited : ({ d with reports }.note (.received run failure)).perform
        (·.exit now run.epoch failure) =
        (d.told run failure reports).caughtUp.perform (·.exited now failure) := by
      simp [perform, Agent.exit, note, hremoved, hphase, act, told, caughtUp]
    rw [hexited]
    cases failure with
    | none =>
      have hsettle : (d.told run none reports).caughtUp.perform (·.exited now none) =
          (d.told run none reports).caughtUp := rfl
      rw [hsettle]
      exact .single (.settle hphase hreports (.inl rfl))
    | some reason =>
      let left : Deployment γ := (d.told run (some reason) reports).caughtUp
      have hdesired : left.agent.desired = d.agent.desired := rfl
      have hcurrent : left.agent.current = (d.agent.removed run.epoch).newest := rfl
      by_cases hlost : d.agent.desired = (d.agent.removed run.epoch).newest
      · have hsettle : left.perform (·.exited now (some reason)) = left := by
          simp [perform, exited, failed, hdesired, hcurrent, hlost]
        rw [hsettle]
        exact .single (.settle hphase hreports (.inr hlost))
      · by_cases hbudget : d.agent.budget = 0
        · have hstop : left.perform (·.exited now (some reason)) =
              left.perform (·.stop (.exhausted d.agent.restart.budget reason)) := by
            have hfailed : left.agent.exited now (some reason) =
                left.agent.stop (.exhausted d.agent.restart.budget reason) := by
              rw [exited, failed, hdesired, hcurrent, if_neg hlost]
              exact if_pos hbudget
            simp only [perform, hfailed]
          rw [hstop]
          exact .single (.giveUp hphase hreports hlost hbudget)
        · have hretry : left.perform (·.exited now (some reason)) =
              { left with agent := { left.agent with
                  deadline := now + d.agent.restart.backoff d.agent.budget
                  budget := d.agent.budget - 1 } } := by
            have hfailed : left.agent.exited now (some reason) =
                ({ left.agent with
                  deadline := now + d.agent.restart.backoff d.agent.budget
                  budget := d.agent.budget - 1 }, []) := by
              rw [exited, failed, hdesired, hcurrent, if_neg hlost]
              exact if_neg hbudget
            simp only [perform, hfailed, List.foldl_nil]
          rw [hretry]
          exact .single (.retry _ hphase hreports hlost hbudget)

/-- Every move is a few turns, if the agent expects what it is told. -/
theorem turns_move (hexpects : ∀ report ∈ d.reports, d.Expects report.1) (m : Move γ) :
    ReflTransGen Turn d (d.move m) := by
  cases m with
  | update now config =>
    rw [move]
    split
    · next hphase => exact turns_update hphase now config
    · exact .refl
  | exit run failure =>
    rw [move]
    split
    · next hrun => exact .single (.exit failure hrun)
    · exact .refl
  | receive now =>
    rw [move]
    split
    · exact .refl
    · next run failure reports hreports =>
      have hmem : (run, failure) ∈ d.reports := hreports ▸ List.mem_cons_self
      exact turns_receive hreports (hexpects _ hmem) now
  | timer now =>
    by_cases hphase : d.agent.phase = .running
    · let idled : Deployment γ := { d with agent := { d.agent with deadline := now + idle } }
      have hstep : d.perform (·.step now .timer) = idled.perform (·.reconcile) := by
        simp [perform, step, hphase, timer, idled]
      rw [move, hstep]
      have hidled : Turn d idled := .wait (now + idle)
      exact (ReflTransGen.single hidled).trans (turns_reconcile hphase)
    · rw [move, perform_of_quiet (step_timer_of_ne hphase now)]
  | shutdown now =>
    by_cases hphase : d.agent.phase = .running
    · have hstep : d.perform (·.step now .shutdown) = d.perform (·.stop .stopped) := by
        simp [perform, step, hphase]
      rw [move, hstep]
      exact .single (.shutdown hphase)
    · rw [move, perform_of_quiet (step_shutdown_of_ne hphase now)]

/-- What every turn keeps is kept by all moves. -/
theorem after_of_turns {P : Deployment γ → Prop} (h : P d)
    (hexpects : ∀ d, P d → ∀ report ∈ d.reports, d.Expects report.1)
    (hturn : ∀ d d', P d → Turn d d' → P d') (moves : List (Move γ)) : P (d.after moves) := by
  induction moves generalizing d with
  | nil => exact h
  | cons m moves ih =>
    refine ih ?_
    have hturns := turns_move (hexpects d h) m
    generalize d.move m = d' at hturns
    induction hturns with
    | refl => exact h
    | tail _ hlast hbefore => exact hturn _ _ hbefore hlast

end Deployment

end MeshControl.Agent
