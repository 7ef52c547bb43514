import MeshControl.Agent.Clock
import MeshControl.Proofs.Agent.Budget

/-!
Restarts that are pending. A failure that leaves an agent without a run of the desired
configuration makes a restart pending. Nothing postpones it but another such failure, and
nothing drops it but another configuration, the timer that fires, and the end of the agent's work.

There is one timer for restarts and for waits in between. So when a restart is due is told by the
moves and the history alone, and the timer of the agent is compared with that.
-/
namespace MeshControl.Agent

variable {γ : Type} [DecidableEq γ]

/-! ### What moves the timer -/

/-- A working agent whose current configuration is not the desired one. -/
def Lacks (a : Agent γ) : Prop := a.phase = .running ∧ a.desired ≠ a.current

omit [DecidableEq γ] in
theorem deadline_stop (a : Agent γ) (outcome : Outcome) :
    (a.stop outcome).1.deadline = a.deadline := by
  unfold stop
  split <;> rfl

omit [DecidableEq γ] in
theorem phase_stop_ne (a : Agent γ) (outcome : Outcome) :
    (a.stop outcome).1.phase ≠ .running := by
  unfold stop
  split <;> nofun

theorem deadline_step_update {a : Agent γ} {config : γ} (hsame : a.desired = some config)
    (now : Nat) : (a.step now (.update config)).1.deadline = a.deadline := by
  cases hphase : a.phase <;> simp [step, hphase, update, hsame]

theorem deadline_step_shutdown (a : Agent γ) (now : Nat) :
    (a.step now .shutdown).1.deadline = a.deadline := by
  by_cases hphase : a.phase = .running
  · have hstep : a.step now .shutdown = a.stop .stopped := by simp [step, hphase]
    rw [hstep, deadline_stop]
  · rw [step_shutdown_of_ne hphase]

/-- A failure moves the timer if it leaves the agent at work without the desired configuration. -/
theorem deadline_failed (a : Agent γ) (now : Nat) (reason : String) (hphase : a.phase = .running) :
    ((a.failed now reason).1.Lacks →
      (a.failed now reason).1.deadline = now + a.restart.backoff a.budget) ∧
    (¬ (a.failed now reason).1.Lacks → (a.failed now reason).1.deadline = a.deadline) := by
  unfold failed
  by_cases hsame : a.desired = a.current
  · rw [if_pos hsame]
    exact ⟨fun hlacks => absurd hsame hlacks.2, fun _ => rfl⟩
  · rw [if_neg hsame]
    by_cases hbudget : a.budget = 0
    · rw [if_pos hbudget]
      exact ⟨fun hlacks => absurd hlacks.1 (a.phase_stop_ne _), fun _ => a.deadline_stop _⟩
    · rw [if_neg hbudget]
      exact ⟨fun _ => rfl, fun hfine => absurd ⟨hphase, hsame⟩ hfine⟩

/-- An agent that has begun to stop does not go back to work, and leaves the timer alone. -/
theorem exit_of_ne {a : Agent γ} (hphase : a.phase ≠ .running) (now epoch : Nat)
    (failure : Option String) :
    (a.exit now epoch failure).1.phase ≠ .running ∧
      (a.exit now epoch failure).1.deadline = a.deadline := by
  have hremoved : (a.removed epoch).phase = a.phase := rfl
  unfold exit
  simp only [hremoved]
  split
  · next hrunning => exact absurd hrunning hphase
  · split
    · exact ⟨nofun, rfl⟩
    · exact ⟨hphase, rfl⟩
  · exact ⟨hphase, rfl⟩

/-- Of exits those that are failures and leave the agent at work without the desired configuration
move the timer, and no others. -/
theorem deadline_step_exit {a : Agent γ} {epoch : Nat} (hlive : a.isLive epoch = true) (now : Nat)
    (failure : Option String) :
    let left := (a.step now (.exit epoch failure)).1
    (failure.isSome = true → left.Lacks →
      a.phase = .running ∧ left.deadline = now + a.restart.backoff a.budget) ∧
    (failure = none ∨ ¬ left.Lacks → left.deadline = a.deadline) := by
  have hstep : a.step now (.exit epoch failure) = a.exit now epoch failure := by
    simp [step, hlive]
  intro left
  rw [show left = (a.exit now epoch failure).1 from congrArg Prod.fst hstep]
  by_cases hphase : a.phase = .running
  · let caughtUp : Agent γ := { a.removed epoch with current := (a.removed epoch).newest }
    have hremoved : (a.removed epoch).phase = .running := hphase
    have hexit : (a.exit now epoch failure).1 = (caughtUp.exited now failure).1 := by
      simp [exit, hremoved, caughtUp]
    rw [hexit]
    cases failure with
    | none => exact ⟨fun hsome => absurd hsome Bool.false_ne_true, fun _ => rfl⟩
    | some reason =>
      have hfailed := caughtUp.deadline_failed now reason hphase
      exact ⟨fun _ hlacks => ⟨hphase, hfailed.1 hlacks⟩,
        fun hfine => hfailed.2 (hfine.resolve_left (Option.some_ne_none reason))⟩
  · obtain ⟨hidle, hdeadline⟩ := exit_of_ne hphase now epoch failure
    exact ⟨fun _ hlacks => absurd hlacks.1 hidle, fun _ => hdeadline⟩

/-- Time that passes until the timer is due brings the start of the desired configuration, and
brings it first. -/
theorem head?_advance {a : Agent γ} {config : γ} {target : Nat} (hphase : a.phase = .running)
    (hdesired : a.desired = some config) (hcurrent : a.current ≠ some config)
    (hdue : a.deadline ≤ target) :
    (a.advance target).2.head? = some ⟨a.deadline, .start a.nextEpoch config⟩ := by
  obtain ⟨fuel, hfuel⟩ : ∃ fuel, target + 1 - a.deadline = fuel + 1 :=
    ⟨target - a.deadline, by omega⟩
  have htimer : (a.take a.deadline .timer).2 = [⟨a.deadline, .start a.nextEpoch config⟩] := by
    simp [take, stepAt, step, timer, reconcile, hphase, hdesired, hcurrent, nextEpoch]
  rw [advance, hfuel, advanceWith, if_pos ⟨hphase, hdue⟩]
  simp [htimer]

namespace Deployment

/-! ### When a restart is due -/

/-- What a move does to the restart that is pending. -/
inductive Bearing where
  /-- From now on one is, and it is due at a time. -/
  | sets (due : Nat)
  | drops
  | leaves

def Bearing.on : Bearing → Option Nat → Option Nat
  | .sets due, _ => some due
  | .drops, _ => none
  | .leaves, due? => due?

/-- Why the run failed whose exit the agent is told of next, if it did. -/
def nextFailure? (d : Deployment γ) : Option String := d.reports.head?.bind (·.2)

/-- Another configuration and the timer drop a restart. A failure that is not fatal makes one
pending if the newest run that is left is not one of the desired configuration; the delay is that
for the budget that remained before. -/
def bearing (r : Restart) (d : Deployment γ) (m : Move γ) : Bearing :=
  match m with
  | .update _ config => if d.history.desired? = some config then .leaves else .drops
  | .timer _ => .drops
  | .receive now =>
    let h := (d.move m).history
    if d.nextFailure?.isSome ∧ h.works ∧ h.desired? ≠ h.newest?.map (·.config) then
      .sets (now + r.backoff (r.budget - d.history.charged.length))
    else .leaves
  | .exit _ _ | .shutdown _ => .leaves

/-- When the restart is due that is pending after some moves, if one is. -/
def dueFrom (r : Restart) (due? : Option Nat) (d : Deployment γ) : List (Move γ) → Option Nat
  | [] => due?
  | m :: moves => dueFrom r ((d.bearing r m).on due?) (d.move m) moves

def dueAfter (r : Restart) (now : Nat) (moves : List (Move γ)) : Option Nat :=
  dueFrom r none (.new r now) moves

variable {d : Deployment γ} {r : Restart}

theorem dueFrom_concat (due? : Option Nat) (d : Deployment γ) (moves : List (Move γ))
    (m : Move γ) :
    dueFrom r due? d (moves ++ [m]) =
      ((d.after moves).bearing r m).on (dueFrom r due? d moves) := by
  induction moves generalizing due? d with
  | nil => rfl
  | cons first moves ih => exact ih _ _

theorem after_concat (d : Deployment γ) (moves : List (Move γ)) (m : Move γ) :
    d.after (moves ++ [m]) = (d.after moves).move m := by
  rw [after, List.foldl_append]
  rfl

/-! ### The timer follows -/

omit [DecidableEq γ] in
theorem agent_perform (d : Deployment γ) (work : Agent γ → Agent γ × List (Action γ)) :
    (d.perform work).agent = (work d.agent).1 := by
  have hfoldl : ∀ (actions : List (Action γ)) (d : Deployment γ),
      (actions.foldl act d).agent = d.agent := by
    intro actions
    induction actions with
    | nil => exact fun d => rfl
    | cons action actions ih =>
      intro d
      rw [List.foldl_cons, ih]
      cases action <;> rfl
  exact hfoldl _ _

theorem agent_receive {run : Run γ} {failure : Option String}
    {reports : List (Run γ × Option String)} (hreports : d.reports = (run, failure) :: reports)
    (now : Nat) :
    (d.move (.receive now)).agent = (d.agent.step now (.exit run.epoch failure)).1 := by
  simp only [move, hreports, agent_perform, note]

/-- What the history tells of a lack is what the agent has. -/
theorem Balanced.lacks_iff (h : Balanced r d) (hkept : d.Kept) :
    d.agent.Lacks ↔
      d.history.works = true ∧ d.history.desired? ≠ d.history.newest?.map (·.config) := by
  rw [h.works, Lacks, h.desired]
  exact and_congr_right fun hphase => by rw [hkept.running hphase]

theorem Balanced.moved (h : Balanced r d) (hkept : d.Kept) (m : Move γ) :
    (d.move m).Kept ∧ Balanced r (d.move m) :=
  after_of_turns (P := fun d => d.Kept ∧ Balanced r d) ⟨hkept, h⟩ (fun _ h => h.1.expects)
    (fun _ _ h hturn => ⟨h.1.turn hturn, h.2.turn h.1 hturn⟩) [m]

/-- What sets the restart that is pending sets the timer to the same time. -/
theorem Balanced.deadline_of_sets (h : Balanced r d) (hkept : d.Kept) {m : Move γ} {due : Nat}
    (hsets : d.bearing r m = .sets due) : (d.move m).agent.deadline = due := by
  cases m with
  | update now config =>
    rw [bearing] at hsets
    split at hsets <;> cases hsets
  | exit run failure => cases hsets
  | timer now => cases hsets
  | shutdown now => cases hsets
  | receive now =>
    rw [bearing] at hsets
    split at hsets
    · next hlost =>
      obtain ⟨hfailure, hlost⟩ := hlost
      obtain rfl := Bearing.sets.inj hsets
      obtain ⟨hkept', h'⟩ := h.moved hkept (.receive now)
      have hlacks : (d.move (.receive now)).agent.Lacks := (h'.lacks_iff hkept').mpr hlost
      cases hreports : d.reports with
      | nil => simp [nextFailure?, hreports] at hfailure
      | cons report reports =>
        have hexpects : d.Expects report.1 := hkept.expects report (hreports ▸ List.mem_cons_self)
        have hsome : report.2.isSome = true := by simpa [nextFailure?, hreports] using hfailure
        rw [agent_receive hreports] at hlacks ⊢
        obtain ⟨hphase, hdeadline⟩ := (deadline_step_exit hexpects.1 now report.2).1 hsome hlacks
        have hbudget : d.agent.budget = r.budget - d.history.charged.length := by
          have hbalance := h.running hphase
          omega
        rw [hdeadline, hbudget, h.restart]
    · cases hsets

/-- What leaves the restart that is pending leaves the timer alone. -/
theorem Balanced.deadline_of_leaves (h : Balanced r d) (hkept : d.Kept) {m : Move γ}
    (hleaves : d.bearing r m = .leaves) : (d.move m).agent.deadline = d.agent.deadline := by
  cases m with
  | update now config =>
    rw [bearing] at hleaves
    split at hleaves
    · next hsame =>
      rw [move]
      split
      · rw [agent_perform]
        exact deadline_step_update (h.desired.trans hsame) now
      · rfl
    · cases hleaves
  | exit run failure =>
    rw [move]
    split <;> rfl
  | timer now => cases hleaves
  | shutdown now =>
    rw [move, agent_perform]
    exact d.agent.deadline_step_shutdown now
  | receive now =>
    obtain ⟨hkept', h'⟩ := h.moved hkept (.receive now)
    cases hreports : d.reports with
    | nil => simp [move, hreports]
    | cons report reports =>
      have hexpects : d.Expects report.1 := hkept.expects report (hreports ▸ List.mem_cons_self)
      have hfine : report.2 = none ∨ ¬ (d.move (.receive now)).agent.Lacks := by
        cases hfailure : report.2 with
        | none => exact .inl rfl
        | some reason =>
          refine .inr fun hlacks => ?_
          have hlost := (h'.lacks_iff hkept').mp hlacks
          have hsome : d.nextFailure?.isSome = true := by simp [nextFailure?, hreports, hfailure]
          rw [bearing, if_pos ⟨hsome, hlost⟩] at hleaves
          cases hleaves
      rw [agent_receive hreports] at hfine ⊢
      exact (deadline_step_exit hexpects.1 now report.2).2 hfine

/-- The timer of an agent that works is set to the time when the pending restart is due. -/
theorem deadline_of_due (moves : List (Move γ)) (now : Nat) {due : Nat}
    (hdue : dueAfter r now moves = some due) :
    ((Deployment.new r now).after moves).agent.deadline = due := by
  induction moves using List.reverseRecOn generalizing due with
  | nil => cases hdue
  | append_singleton moves m ih =>
    obtain ⟨hkept, hbalanced⟩ := Balanced.after (γ := γ) (r := r) moves now
    rw [dueAfter, dueFrom_concat] at hdue
    rw [after_concat]
    cases hbearing : (Deployment.new r now |>.after moves).bearing r m with
    | sets time =>
      rw [hbearing] at hdue
      obtain rfl := Option.some.inj hdue
      exact hbalanced.deadline_of_sets hkept hbearing
    | drops =>
      rw [hbearing] at hdue
      cases hdue
    | leaves =>
      rw [hbearing] at hdue
      rw [hbalanced.deadline_of_leaves hkept hbearing]
      exact ih hdue

/-- A timer that fires starts a run of the desired configuration, unless that is current. -/
theorem Balanced.history_timer (h : Balanced r d) (hkept : d.Kept)
    (hphase : d.agent.phase = .running) (now : Nat) {config : γ}
    (hdesired : d.history.desired? = some config) :
    (d.move (.timer now)).history =
      if d.history.newest?.map (·.config) = some config then d.history
      else .started ⟨d.history.length, d.history.nextEpoch, config⟩ :: d.history := by
  have hagent : d.agent.desired = some config := h.desired.trans hdesired
  rw [move, ← hkept.running hphase, ← hkept.nextEpoch_eq]
  by_cases hcurrent : d.agent.current = some config
  · rw [if_pos hcurrent]
    simp [perform, step, hphase, timer, reconcile, hagent, hcurrent]
  · rw [if_neg hcurrent]
    simp [perform, step, hphase, timer, reconcile, hagent, hcurrent, act, note, nextEpoch]

/-- A restart that is pending is not lost and not postponed while the agent works: the timer is set
to the time when it is due, and nothing else moves it. When it fires, the desired configuration is
started unless it is current. -/
theorem pending_restart_kept (restart : Restart) (now : Nat) (moves : List (Move γ))
    (hworks : ((Deployment.new restart now).after moves).history.works = true) :
    let d := (Deployment.new restart now).after moves
    d.agent.phase = .running ∧
    d.agent.desired = d.history.desired? ∧
    d.agent.current = d.history.newest?.map (·.config) ∧
    d.agent.budget = restart.budget - d.history.charged.length ∧
    (∀ due, dueAfter restart now moves = some due → d.agent.deadline = due) ∧
    (∀ m, d.bearing restart m = .leaves → (d.move m).agent.deadline = d.agent.deadline) ∧
    ∀ config, d.history.desired? = some config →
      (∀ time, (d.move (.timer time)).history =
        if d.history.newest?.map (·.config) = some config then d.history
        else .started ⟨d.history.length, d.history.nextEpoch, config⟩ :: d.history) ∧
      (d.history.newest?.map (·.config) ≠ some config → ∀ time, d.agent.deadline ≤ time →
        (d.agent.advance time).2.head? =
          some ⟨d.agent.deadline, .start d.history.nextEpoch config⟩) := by
  intro d
  obtain ⟨hkept, h⟩ : d.Kept ∧ Balanced restart d := Balanced.after moves now
  have hphase : d.agent.phase = .running := h.works.mp hworks
  have hcurrent : d.agent.current = d.history.newest?.map (·.config) := hkept.running hphase
  have hbudget : d.agent.budget = restart.budget - d.history.charged.length := by
    have hbalance := h.running hphase
    omega
  refine ⟨hphase, h.desired, hcurrent, hbudget, fun due => deadline_of_due moves now,
    fun m => h.deadline_of_leaves hkept, fun config hdesired => ⟨fun time => ?_, ?_⟩⟩
  · exact h.history_timer hkept hphase time hdesired
  · intro hother time htime
    rw [← hkept.nextEpoch_eq]
    exact head?_advance hphase (h.desired.trans hdesired) (hcurrent ▸ hother) htime

/-- The second configuration fails while the first one drains. Then it is scheduled again, and the
first one exits in peace. -/
def quietWhilePending : List (Move Nat) := [
  .update 0 1, .update 0 2, .exit ⟨3, 1, 2⟩ (some "crashed"), .receive 10, .update 50 2,
  .exit ⟨1, 0, 1⟩ none, .receive 60]

theorem pending_restart_kept_while_quiet :
    let d := (Deployment.new ⟨3, 100⟩ 0).after quietWhilePending
    d.history.works = true ∧ dueAfter ⟨3, 100⟩ 0 quietWhilePending = some 210 ∧
      d.agent.deadline = 210 ∧
      (d.agent.advance 1000).2.head? = some ⟨210, .start 0 2⟩ := by
  intro d
  have hworks : d.history.works = true := by decide
  have hdue : dueAfter ⟨3, 100⟩ 0 quietWhilePending = some 210 := by decide
  have hkept := pending_restart_kept ⟨3, 100⟩ 0 quietWhilePending hworks
  obtain ⟨-, -, -, -, htimer, -, hfires⟩ := hkept
  have hdeadline : d.agent.deadline = 210 := htimer 210 hdue
  have hfirst := (hfires 2 (by decide)).2 (by decide) 1000 (by decide)
  exact ⟨hworks, hdue, hdeadline, hfirst⟩

/-- The only run fails, and the agent is shut down while the restart is pending. -/
def shutDownWhilePending : List (Move Nat) := [
  .update 0 1, .exit ⟨1, 0, 1⟩ (some "crashed"), .receive 0, .shutdown 50]

/-- A shutdown drops a restart: the agent has ended, and the time when the restart is due brings
nothing. -/
theorem pending_restart_dropped_at_end :
    let d := (Deployment.new ⟨3, 100⟩ 0).after shutDownWhilePending
    dueAfter ⟨3, 100⟩ 0 shutDownWhilePending = some 200 ∧ d.agent.phase = .ended .stopped ∧
      d.history.desired? = some 1 ∧ d.history.newest? = none ∧
      (d.move (.timer 200)).history = d.history ∧ (d.agent.advance 200).2.head? = none :=
  ⟨by decide, by decide, by decide, by decide, rfl, rfl⟩

end Deployment

end MeshControl.Agent
