import Mathlib.Data.List.Perm.Subperm
import MeshControl.Proofs.Agent.Discipline

/-!
What the budget of an agent counts. It is spent by failures that leave the desired configuration
without the newest run, and the agent gives up with the one that finds it empty. So it has tried
a configuration once more than it has restarts, except for failures that are charged to it but are
those of older runs, which were still draining when the configuration became the desired one.
-/
namespace MeshControl.Agent

namespace Record

variable {γ : Type}

/-- Whether the agent has begun to stop when it leaves such a record. -/
def stops : Record γ → Bool
  | aborted _ => true
  | finished _ => true
  | _ => false

end Record

namespace History

variable {γ : Type}

/-- Whether the agent has not begun to stop. -/
def works (h : History γ) : Bool := !h.any Record.stops

variable [DecidableEq γ]

/-- The runs that were started since the desired configuration last became the desired one. -/
def attempts : History γ → List (Run γ)
  | [] => []
  | .scheduled config :: h => if desired? h = some config then attempts h else []
  | .started run :: h => run :: attempts h
  | _ :: h => attempts h

/-- The runs whose failures were charged to the desired configuration since then: while the agent
worked they failed, and the newest run that was left was not one of the configuration. -/
def charged : History γ → List (Run γ)
  | [] => []
  | .scheduled config :: h => if desired? h = some config then charged h else []
  | .received run (some reason) :: h =>
    let left := newest? (.received run (some reason) :: h)
    if works h ∧ desired? h ≠ left.map (·.config) then run :: charged h else charged h
  | _ :: h => charged h

/-- The runs among these that had been started before, be it for another configuration. -/
def strangers (h : History γ) : List (Run γ) := h.charged.filter (· ∉ h.attempts)

theorem charged_sublist_gone (h : History γ) : h.charged.Sublist h.gone := by
  induction h with
  | nil => exact .slnil
  | cons record h ih =>
    cases record with
    | scheduled config =>
      rw [charged]
      split
      · exact ih
      · exact List.nil_sublist _
    | received run failure =>
      cases failure with
      | none => exact ih.cons run
      | some reason =>
        rw [charged]
        split
        · exact ih.cons_cons run
        · exact ih.cons run
    | started run => exact ih
    | aborted epoch => exact ih
    | cleaned epoch => exact ih
    | finished outcome => exact ih

/-- A charge is for an attempt or for a stranger. -/
theorem length_charged_le {h : History γ} (hgone : h.gone.Nodup) :
    h.charged.length ≤ h.attempts.length + h.strangers.length := by
  have hnodup : h.charged.Nodup := h.charged_sublist_gone.nodup hgone
  have hattempts : h.charged.filter (· ∈ h.attempts) ⊆ h.attempts := fun run hrun =>
    of_decide_eq_true (List.mem_filter.mp hrun).2
  have hle : (h.charged.filter (· ∈ h.attempts)).length ≤ h.attempts.length :=
    (List.subperm_of_subset (hnodup.filter _) hattempts).length_le
  have hsplit := h.charged.length_eq_length_filter_add fun run => decide (run ∈ h.attempts)
  simp only [strangers, decide_not]
  omega

end History

namespace Deployment

variable {γ : Type} [DecidableEq γ] {d : Deployment γ}

/-- The agent has its restarts, and it desires and attempts what the history says. -/
structure Pursues (r : Restart) (d : Deployment γ) : Prop where
  restart : d.agent.restart = r
  desired : d.agent.desired = d.history.desired?
  attempts : ∀ run ∈ d.history.attempts, d.agent.desired = some run.config

theorem Pursues.told {r : Restart} (h : Pursues r d) (run : Run γ) (failure : Option String)
    (reports : List (Run γ × Option String)) : Pursues r (d.told run failure reports) :=
  ⟨h.restart, h.desired, h.attempts⟩

theorem Pursues.caughtUp {r : Restart} (h : Pursues r d) : Pursues r d.caughtUp :=
  ⟨h.restart, h.desired, h.attempts⟩

/-- The budget is what the history leaves of the restarts; none of it is left in the end. -/
structure Balanced (r : Restart) (d : Deployment γ) : Prop extends Pursues r d where
  works : d.history.works = true ↔ d.agent.phase = .running
  running : d.agent.phase = .running → d.agent.budget + d.history.charged.length = r.budget
  exhausted : ∀ n reason, d.Stops (.exhausted n reason) →
    n = r.budget ∧ d.history.charged.length = r.budget + 1

namespace Balanced

variable {r : Restart}

theorem new (now : Nat) : Balanced r (Deployment.new r now : Deployment γ) where
  restart := rfl
  desired := rfl
  attempts := nofun
  works := ⟨fun _ => rfl, fun _ => rfl⟩
  running _ := rfl
  exhausted n reason h := by rcases h with h | h <;> cases h

theorem of_running (h : Pursues r d) (hphase : d.agent.phase = .running)
    (hworks : d.history.works = true)
    (hbudget : d.agent.budget + d.history.charged.length = r.budget) : Balanced r d where
  toPursues := h
  works := ⟨fun _ => hphase, fun _ => hworks⟩
  running _ := hbudget
  exhausted n reason hstops := by
    rcases hstops with hstops | hstops <;> rw [hphase] at hstops <;> cases hstops

theorem of_stops (h : Pursues r d) {outcome : Outcome} (hstops : d.Stops outcome)
    (hworks : d.history.works = false)
    (hspent : ∀ n reason, outcome = .exhausted n reason →
      n = r.budget ∧ d.history.charged.length = r.budget + 1) : Balanced r d := by
  have hidle : d.agent.phase ≠ .running := hstops.ne_running
  constructor
  case toPursues => exact h
  case works => simp [hworks, hidle]
  case running => exact fun hphase => absurd hphase hidle
  case exhausted =>
    intro n reason hother
    exact hspent n reason (hstops.inj hother)

theorem finish (h : Pursues r d) {outcome : Outcome}
    (hspent : ∀ n reason, outcome = .exhausted n reason →
      n = r.budget ∧ d.history.charged.length = r.budget + 1) :
    Balanced r (d.perform (·.finish outcome)) :=
  of_stops ⟨h.restart, h.desired, h.attempts⟩ (.inr rfl) rfl hspent

theorem stop (h : Pursues r d) {outcome : Outcome}
    (hspent : ∀ n reason, outcome = .exhausted n reason →
      n = r.budget ∧ d.history.charged.length = r.budget + 1) :
    Balanced r (d.perform (·.stop outcome)) := by
  by_cases hnone : d.agent.epochs = []
  · rw [perform_stop_of_nil hnone]
    exact finish h hspent
  · rw [perform_stop_of_ne hnone]
    have hdesired := History.eq_of_aborts History.desired? (fun _ _ => rfl) d.history
      (d.agent.epochs.map (·.1))
    have hattempts := History.eq_of_aborts History.attempts (fun _ _ => rfl) d.history
      (d.agent.epochs.map (·.1))
    have hcharged := History.eq_of_aborts History.charged (fun _ _ => rfl) d.history
      (d.agent.epochs.map (·.1))
    refine of_stops ⟨h.restart, ?_, ?_⟩ (.inl rfl) ?_ ?_
    · exact h.desired.trans hdesired.symm
    · rw [hattempts]
      exact h.attempts
    · obtain ⟨e, es, hepochs⟩ := List.exists_cons_of_ne_nil hnone
      simp [History.works, hepochs, Record.stops]
    · rw [hcharged]
      exact hspent

/-- A failure is charged if the desired configuration is not that of the newest run left. -/
theorem charged_told (h : Balanced r d) (hkept : d.Kept) (hphase : d.agent.phase = .running)
    {run : Run γ} {reason : String} {reports : List (Run γ × Option String)}
    (hreports : d.reports = (run, some reason) :: reports) :
    (d.told run (some reason) reports).history.charged =
      if d.agent.desired = (d.agent.removed run.epoch).newest then d.history.charged
      else run :: d.history.charged := by
  have hleft : (d.agent.removed run.epoch).newest =
      (History.newest? (.received run (some reason) :: d.history)).map (·.config) :=
    (hkept.told hreports).newest_eq
  have hworks : d.history.works = true := h.works.mpr hphase
  change History.charged (.received run (some reason) :: d.history) = _
  rw [History.charged, hleft, h.desired]
  simp only [hworks, true_and, ne_eq, ite_not]

/-- An agent that does not work is not charged. -/
theorem charged_told_of_stops (h : Balanced r d) {outcome : Outcome} (hstops : d.Stops outcome)
    (run : Run γ) (failure : Option String) (reports : List (Run γ × Option String)) :
    (d.told run failure reports).history.charged = d.history.charged := by
  have hworks : d.history.works ≠ true := fun hworks => hstops.ne_running (h.works.mp hworks)
  cases failure with
  | none => rfl
  | some reason =>
    change History.charged (.received run (some reason) :: d.history) = _
    rw [History.charged]
    exact if_neg fun hcharged => hworks hcharged.1

theorem turn {d' : Deployment γ} (h : Balanced r d) (hkept : d.Kept) (hturn : Turn d d') :
    Balanced r d' := by
  cases hturn with
  | wait deadline => exact ⟨⟨h.restart, h.desired, h.attempts⟩, h.works, h.running, h.exhausted⟩
  | exit failure hrun =>
    exact ⟨⟨h.restart, h.desired, h.attempts⟩, h.works, h.running, h.exhausted⟩
  | @again config hphase hsame =>
    have hknown : d.history.desired? = some config := h.desired.symm.trans hsame
    have hattempts : History.attempts (.scheduled config :: d.history) = d.history.attempts :=
      if_pos hknown
    have hcharged : History.charged (.scheduled config :: d.history) = d.history.charged :=
      if_pos hknown
    refine of_running ⟨h.restart, hsame, ?_⟩ hphase (h.works.mpr hphase) ?_
    · exact hattempts ▸ h.attempts
    · exact hcharged ▸ h.running hphase
  | @schedule config hphase hother =>
    have hknown : d.history.desired? ≠ some config := h.desired ▸ hother
    have hattempts : History.attempts (.scheduled config :: d.history) = [] := if_neg hknown
    have hcharged : History.charged (.scheduled config :: d.history) = [] := if_neg hknown
    refine of_running ⟨h.restart, rfl, ?_⟩ hphase (h.works.mpr hphase) ?_
    · intro run hrun
      rw [note, hattempts] at hrun
      cases hrun
    · rw [note, hcharged, h.restart]
      rfl
  | @start config hphase hdesired hcurrent =>
    refine of_running ⟨h.restart, h.desired, ?_⟩ hphase (h.works.mpr hphase) (h.running hphase)
    intro run hrun
    rcases List.mem_cons.mp hrun with rfl | hrun
    · exact hdesired
    · exact h.attempts run hrun
  | @settle run failure reports hphase hreports hfine =>
    have hcharged : (d.told run failure reports).history.charged = d.history.charged := by
      cases failure with
      | none => rfl
      | some reason =>
        rw [h.charged_told hkept hphase hreports,
          if_pos (hfine.resolve_left (Option.some_ne_none reason))]
    refine of_running (h.told run failure reports).caughtUp hphase (h.works.mpr hphase) ?_
    change d.agent.budget + (d.told run failure reports).history.charged.length = _
    rw [hcharged]
    exact h.running hphase
  | @retry run reason reports deadline hphase hreports hlost hbudget =>
    have hcharged := h.charged_told hkept hphase hreports
    rw [if_neg hlost] at hcharged
    refine of_running ⟨h.restart, h.desired, h.attempts⟩ hphase (h.works.mpr hphase) ?_
    change d.agent.budget - 1 + (d.told run (some reason) reports).history.charged.length = _
    rw [hcharged, List.length_cons]
    have hrunning := h.running hphase
    omega
  | @giveUp run reason reports hphase hreports hlost hbudget =>
    have hcharged := h.charged_told hkept hphase hreports
    rw [if_neg hlost] at hcharged
    have hrunning := h.running hphase
    refine stop (h.told run (some reason) reports).caughtUp ?_
    rintro n reason' ⟨⟩
    refine ⟨congrArg Restart.budget h.restart, ?_⟩
    change (d.told run (some reason) reports).history.charged.length = _
    rw [hcharged, List.length_cons]
    omega
  | @drain run failure reports outcome hphase hreports hleft =>
    have hstops : d.Stops outcome := .inl hphase
    refine of_stops (h.told run failure reports) hstops ?_ ?_
    · exact Bool.eq_false_iff.mpr fun hworks => hstops.ne_running (h.works.mp hworks)
    · rw [h.charged_told_of_stops hstops]
      rintro n reason rfl
      exact h.exhausted n reason hstops
  | @finish run failure reports outcome hphase hreports hleft =>
    have hstops : d.Stops outcome := .inl hphase
    refine finish (h.told run failure reports) ?_
    rw [h.charged_told_of_stops hstops]
    rintro n reason rfl
    exact h.exhausted n reason hstops
  | shutdown hphase => exact stop h.toPursues (by rintro n reason ⟨⟩)

theorem after (moves : List (Move γ)) (now : Nat) :
    (Deployment.new r now |>.after moves).Kept ∧ Balanced r (Deployment.new r now |>.after moves) :=
  after_of_turns (P := fun d => d.Kept ∧ Balanced r d) ⟨Kept.new r now, new now⟩
    (fun _ h => h.1.expects) (fun _ _ h hturn => ⟨h.1.turn hturn, h.2.turn h.1 hturn⟩) moves

end Balanced

/-- An agent gives up with the failure that is charged to the desired configuration beyond its
budget, and not before. By then it has attempted the configuration once more than the budget says,
or else strangers were charged to it. -/
theorem gives_up_beyond_budget (restart : Restart) (now : Nat) (moves : List (Move γ)) :
    let d := (Deployment.new restart now).after moves
    (∀ run ∈ d.history.attempts, d.agent.desired = some run.config) ∧
    (d.agent.phase = .running → d.history.charged.length ≤ restart.budget) ∧
    ∀ n reason, d.Stops (.exhausted n reason) →
      n = restart.budget ∧ d.history.charged.length = restart.budget + 1 ∧
      restart.budget + 1 ≤ d.history.attempts.length + d.history.strangers.length := by
  intro d
  obtain ⟨hkept, hbalanced⟩ : d.Kept ∧ Balanced restart d := Balanced.after moves now
  refine ⟨hbalanced.attempts, fun hphase => ?_, fun n reason hstops => ?_⟩
  · have hrunning := hbalanced.running hphase
    omega
  · obtain ⟨hn, hcharged⟩ := hbalanced.exhausted n reason hstops
    have hle := History.length_charged_le hkept.gone.1
    exact ⟨hn, hcharged, hcharged ▸ hle⟩

/-- A second configuration takes over and fails once; while its restart is pending, the run of the
first one fails as well. -/
def drainingFailure : List (Move Nat) := [
  .update 0 1, .update 0 2, .exit ⟨3, 1, 2⟩ (some "crashed"), .receive 0,
  .exit ⟨1, 0, 1⟩ (some "crashed"), .receive 0]

/-- The failure of the stranger ends the agent before its one restart. -/
theorem gives_up_before_restart :
    let d := (Deployment.new ⟨1, 100⟩ 0).after drainingFailure
    d.agent.phase = .ended (.exhausted 1 "crashed") ∧ d.agent.desired = some 2 ∧
      d.history.attempts = [⟨3, 1, 2⟩] ∧ d.history.strangers = [⟨1, 0, 1⟩] ∧
      ¬ 1 + 1 ≤ d.history.attempts.length := by
  decide

end Deployment

end MeshControl.Agent
