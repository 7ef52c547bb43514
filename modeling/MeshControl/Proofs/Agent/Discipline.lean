import Mathlib.Data.List.Nodup
import MeshControl.Proofs.Agent.Deployment

/-!
The discipline of epochs. At every moment the epochs of an agent are its live runs, all under
numbers of their own; while it works the newest of them decides what is current. Nothing is
cleaned up but what has exited, and an agent that has ended leaves nothing behind.
-/
namespace MeshControl.Agent

namespace Deployment

variable {γ : Type} [DecidableEq γ] {d : Deployment γ}

/-! ### How an agent stops -/

omit [DecidableEq γ] in
theorem foldl_act_aborts (d : Deployment γ) (epochs : List Nat) :
    (epochs.map Action.abort).foldl act d =
      { d with history := (epochs.map Record.aborted).reverse ++ d.history } := by
  induction epochs generalizing d with
  | nil => rfl
  | cons epoch epochs ih =>
    rw [List.map_cons, List.foldl_cons, ih]
    simp [act, note]

omit [DecidableEq γ] in
theorem perform_stop_of_nil (hnone : d.agent.epochs = []) (outcome : Outcome) :
    d.perform (·.stop outcome) = d.perform (·.finish outcome) := by
  simp [perform, stop, hnone]

omit [DecidableEq γ] in
theorem perform_stop_of_ne (hsome : d.agent.epochs ≠ []) (outcome : Outcome) :
    d.perform (·.stop outcome) =
      { d with
        agent := { d.agent with phase := .stopping outcome }
        history := ((d.agent.epochs.map (·.1)).map Record.aborted).reverse ++ d.history } := by
  have haborts : d.agent.epochs.map (fun e => (Action.abort e.1 : Action γ)) =
      (d.agent.epochs.map (·.1)).map Action.abort := by
    rw [List.map_map]
    rfl
  have hstop : d.agent.stop outcome =
      ({ d.agent with phase := .stopping outcome },
        (d.agent.epochs.map (·.1)).map Action.abort) := by
    rw [stop, if_neg (by simpa using hsome), haborts]
  rw [perform, hstop, foldl_act_aborts]

/-! ### What agrees with the history -/

/-- The agent and the runs around it are those of the history. -/
structure Agrees (d : Deployment γ) : Prop where
  epochs : d.agent.epochs = d.history.live.map Run.entry
  descend : d.history.live.Pairwise fun r s => s.epoch < r.epoch
  whole : d.history.live.Perm (d.running ++ d.reports.map (·.1))
  serials : ∀ run ∈ d.history.started, run.serial < d.history.length
  started : d.history.started.Nodup
  gone : d.history.gone.Nodup ∧ d.history.gone ⊆ d.history.started
  cleaned : d.history.cleaned = d.history.gone.map (·.epoch)
  orderly : d.history.Orderly

namespace Agrees

theorem nodup_epochs (h : d.Agrees) : (d.history.live.map (·.epoch)).Nodup :=
  List.pairwise_map.mpr (h.descend.imp fun hlt => (Nat.ne_of_lt hlt).symm)

/-- Live runs of one number are one. -/
theorem eq_of_epoch (h : d.Agrees) {r s : Run γ} (hr : r ∈ d.history.live)
    (hs : s ∈ d.history.live) (hepoch : r.epoch = s.epoch) : r = s :=
  List.inj_on_of_nodup_map h.nodup_epochs hr hs hepoch

theorem nextEpoch_eq (h : d.Agrees) : d.agent.nextEpoch = d.history.nextEpoch := by
  rw [History.nextEpoch_eq h.descend, nextEpoch, h.epochs, List.head?_map, Option.map_map]
  rfl

theorem newest_eq (h : d.Agrees) : d.agent.newest = d.history.newest?.map (·.config) := by
  rw [History.newest?_eq_head? h.descend, newest, h.epochs, List.head?_map, Option.map_map]
  rfl

/-- The agent may change in all but its epochs. -/
theorem of_agent (h : d.Agrees) {agent : Agent γ} (hepochs : agent.epochs = d.agent.epochs) :
    Agrees { d with agent } :=
  { h with epochs := hepochs.trans h.epochs }

theorem caughtUp (h : d.Agrees) : d.caughtUp.Agrees := h.of_agent rfl

/-- A record that is not about runs may be added. -/
theorem schedule (h : d.Agrees) (config : γ) : (d.note (.scheduled config)).Agrees :=
  { h with
    serials := fun run hrun => (h.serials run hrun).trans (Nat.lt_succ_self _)
    orderly := h.orderly.schedule config }

theorem exit (h : d.Agrees) {run : Run γ} (failure : Option String) (hrun : run ∈ d.running) :
    Agrees { d with
      running := d.running.erase run
      reports := d.reports ++ [(run, failure)] } := by
  have hout : (d.running ++ d.reports.map (·.1)).Perm
      (run :: (d.running.erase run ++ d.reports.map (·.1))) :=
    (List.perm_cons_erase hrun).append_right _
  have hqueued : (run :: (d.running.erase run ++ d.reports.map (·.1))).Perm
      (d.running.erase run ++ (d.reports ++ [(run, failure)]).map (·.1)) := by
    rw [List.map_append, ← List.append_assoc]
    exact (List.perm_append_singleton run _).symm
  exact { h with whole := (h.whole.trans hout).trans hqueued }

theorem begun (h : d.Agrees) (config : γ) : (d.begun config).Agrees := by
  let run : Run γ := ⟨d.history.length, d.agent.nextEpoch, config⟩
  have hnew : run ∉ d.history.started := fun hmem => Nat.lt_irrefl _ (h.serials run hmem)
  have hlive : (d.begun config).history.live = run :: d.history.live :=
    History.live_started fun hmem => hnew (h.gone.2 hmem)
  have hepoch : run.epoch = d.history.nextEpoch := h.nextEpoch_eq
  constructor
  case epochs => rw [hlive, List.map_cons, ← h.epochs]; rfl
  case descend =>
    rw [hlive, List.pairwise_cons]
    exact ⟨fun r hr => hepoch ▸ History.epoch_lt_nextEpoch hr, h.descend⟩
  case whole => rw [hlive]; exact h.whole.cons run
  case serials =>
    intro r hr
    rcases List.mem_cons.mp hr with rfl | hr
    · exact Nat.lt_succ_self _
    · exact (h.serials r hr).trans (Nat.lt_succ_self _)
  case started => exact h.started.cons hnew
  case gone => exact ⟨h.gone.1, List.Subset.trans h.gone.2 (List.subset_cons_self _ _)⟩
  case cleaned => exact h.cleaned
  case orderly => exact h.orderly.start hnew hepoch

variable {run : Run γ} {failure : Option String} {reports : List (Run γ × Option String)}

theorem mem_live (h : d.Agrees) {report : Run γ × Option String} (hreport : report ∈ d.reports) :
    report.1 ∈ d.history.live :=
  h.whole.mem_iff.mpr (List.mem_append_right _ (List.mem_map_of_mem hreport))

theorem told (h : d.Agrees) (hreports : d.reports = (run, failure) :: reports) :
    (d.told run failure reports).Agrees := by
  have hrun : run ∈ d.history.live := h.mem_live (hreports ▸ List.mem_cons_self)
  have hlive : (d.told run failure reports).history.live = d.history.live.filter (· != run) :=
    History.live_received d.history run failure
  constructor
  case epochs =>
    rw [hlive]
    change d.agent.epochs.filter (·.1 != run.epoch) = _
    rw [h.epochs, List.filter_map]
    refine congrArg (List.map Run.entry) (List.filter_congr fun r hr => ?_)
    rw [Bool.eq_iff_iff]
    simp only [Function.comp_apply, Run.entry, bne_iff_ne, ne_eq, not_iff_not]
    exact ⟨h.eq_of_epoch hr hrun, congrArg Run.epoch⟩
  case descend => rw [hlive]; exact h.descend.filter _
  case whole =>
    rw [hlive, ← h.nodup_epochs.of_map.erase_eq_filter]
    have hmiddle : d.history.live.Perm (run :: (d.running ++ reports.map (·.1))) := by
      refine h.whole.trans ?_
      rw [hreports]
      exact List.perm_middle
    have herase := hmiddle.erase run
    rwa [List.erase_cons_head] at herase
  case serials =>
    exact fun r hr => (h.serials r hr).trans (Nat.lt_add_of_pos_right (Nat.zero_lt_two))
  case started => exact h.started
  case gone =>
    obtain ⟨hstarted, hunknown⟩ := History.mem_live.mp hrun
    exact ⟨h.gone.1.cons hunknown, List.cons_subset.mpr ⟨hstarted, h.gone.2⟩⟩
  case cleaned => exact congrArg (List.cons run.epoch) h.cleaned
  case orderly =>
    exact h.orderly.exit failure hrun fun r hr hepoch => h.eq_of_epoch hr hrun hepoch

theorem finish (h : d.Agrees) (outcome : Outcome) : (d.perform (·.finish outcome)).Agrees :=
  { h with
    serials := fun run hrun => (h.serials run hrun).trans (Nat.lt_succ_self _)
    orderly := h.orderly.finish outcome }

theorem stop (h : d.Agrees) (outcome : Outcome) : (d.perform (·.stop outcome)).Agrees := by
  by_cases hnone : d.agent.epochs = []
  · rw [perform_stop_of_nil hnone]
    exact h.finish outcome
  · rw [perform_stop_of_ne hnone]
    have hlive := History.live_aborts d.history (d.agent.epochs.map (·.1))
    constructor
    case epochs => exact hlive ▸ h.epochs
    case descend => exact hlive ▸ h.descend
    case whole => exact hlive ▸ h.whole
    case serials =>
      intro r hr
      simp only [History.started_aborts] at hr
      have hlt := h.serials r hr
      simp only [List.length_append]
      omega
    case started => simpa only [History.started_aborts] using h.started
    case gone => simpa only [History.started_aborts, History.gone_aborts] using h.gone
    case cleaned => simpa only [History.cleaned_aborts, History.gone_aborts] using h.cleaned
    case orderly => exact h.orderly.aborts _

end Agrees

/-! ### What is kept -/

/-- Beyond what agrees, what holds while the agent works, while it stops and when it has ended. -/
structure Kept (d : Deployment γ) : Prop extends Agrees d where
  running : d.agent.phase = .running → d.agent.current = d.history.newest?.map (·.config)
  stopping : ∀ outcome, d.agent.phase = .stopping outcome →
    d.history.live ≠ [] ∧ ∀ run ∈ d.history.live, .aborted run.epoch ∈ d.history
  ended : ∀ outcome, d.agent.phase = .ended outcome →
    d.history.live = [] ∧ d.agent.current = none

namespace Kept

theorem of_running (h : d.Agrees) (hphase : d.agent.phase = .running)
    (hcurrent : d.agent.current = d.history.newest?.map (·.config)) : d.Kept where
  toAgrees := h
  running _ := hcurrent
  stopping _ hother := by rw [hphase] at hother; cases hother
  ended _ hother := by rw [hphase] at hother; cases hother

theorem of_ended (h : d.Agrees) {outcome : Outcome} (hphase : d.agent.phase = .ended outcome)
    (hlive : d.history.live = []) (hcurrent : d.agent.current = none) : d.Kept where
  toAgrees := h
  running hother := by rw [hphase] at hother; cases hother
  stopping _ hother := by rw [hphase] at hother; cases hother
  ended _ _ := ⟨hlive, hcurrent⟩

theorem of_stopping (h : d.Agrees) {outcome : Outcome} (hphase : d.agent.phase = .stopping outcome)
    (hlive : d.history.live ≠ [])
    (haborted : ∀ run ∈ d.history.live, .aborted run.epoch ∈ d.history) : d.Kept where
  toAgrees := h
  running hother := by rw [hphase] at hother; cases hother
  stopping _ _ := ⟨hlive, haborted⟩
  ended _ hother := by rw [hphase] at hother; cases hother

theorem finish (h : d.Agrees) (hnone : d.agent.epochs = []) (outcome : Outcome) :
    (d.perform (·.finish outcome)).Kept := by
  have hlive : d.history.live = [] := List.map_eq_nil_iff.mp (h.epochs ▸ hnone)
  exact .of_ended (h.finish outcome) rfl hlive rfl

theorem stop (h : d.Agrees) (outcome : Outcome) : (d.perform (·.stop outcome)).Kept := by
  have hagrees := h.stop outcome
  by_cases hnone : d.agent.epochs = []
  · rw [perform_stop_of_nil hnone]
    exact finish h hnone outcome
  · rw [perform_stop_of_ne hnone] at hagrees ⊢
    have hlive := History.live_aborts d.history (d.agent.epochs.map (·.1))
    refine .of_stopping hagrees rfl ?_ ?_
    · rw [hlive]
      intro hnil
      exact hnone (by rw [h.epochs, hnil]; rfl)
    · intro run hrun
      rw [hlive] at hrun
      have hentry : run.entry ∈ d.agent.epochs := h.epochs ▸ List.mem_map_of_mem hrun
      refine List.mem_append_left _ (List.mem_reverse.mpr (List.mem_map_of_mem ?_))
      exact List.mem_map.mpr ⟨run.entry, hentry, rfl⟩

/-- Everything is kept by every turn. -/
theorem turn {d' : Deployment γ} (h : d.Kept) (hturn : Turn d d') : d'.Kept := by
  cases hturn with
  | wait deadline =>
    exact ⟨h.toAgrees.of_agent rfl, h.running, h.stopping, h.ended⟩
  | exit failure hrun =>
    exact ⟨h.toAgrees.exit failure hrun, h.running, h.stopping, h.ended⟩
  | again hphase hsame => exact .of_running (h.schedule _) hphase (h.running hphase)
  | schedule hphase hother =>
    exact .of_running ((h.schedule _).of_agent rfl) hphase (h.running hphase)
  | @start config hphase hdesired hcurrent =>
    have hbegun := h.begun config
    exact .of_running hbegun hphase hbegun.newest_eq
  | settle hphase hreports hfine =>
    have htold := h.told hreports
    exact .of_running htold.caughtUp hphase htold.newest_eq
  | retry deadline hphase hreports hlost hbudget =>
    have htold := h.told hreports
    exact .of_running (htold.caughtUp.of_agent rfl) hphase htold.newest_eq
  | giveUp hphase hreports hlost hbudget => exact stop (h.told hreports).caughtUp _
  | @drain run failure reports outcome hphase hreports hleft =>
    have htold := h.told hreports
    obtain ⟨-, haborted⟩ := h.stopping outcome hphase
    refine .of_stopping htold hphase ?_ ?_
    · intro hnil
      have hepochs : (d.agent.removed run.epoch).epochs = _ := htold.epochs
      exact hleft (by rw [hepochs, hnil]; rfl)
    · intro r hr
      rw [told, History.live_cleaned, History.live_received, List.mem_filter] at hr
      exact List.mem_cons_of_mem _ (List.mem_cons_of_mem _ (haborted r hr.1))
  | finish hphase hreports hleft => exact finish (h.told hreports) hleft _
  | shutdown hphase => exact stop h.toAgrees _

theorem expects (h : d.Kept) : ∀ report ∈ d.reports, d.Expects report.1 := by
  intro report hreport
  have hlive := h.mem_live hreport
  constructor
  · rw [isLive, List.any_eq_true]
    exact ⟨report.1.entry, h.epochs ▸ List.mem_map_of_mem hlive, beq_self_eq_true _⟩
  · intro outcome hphase
    rw [(h.ended outcome hphase).1] at hlive
    cases hlive

theorem new (restart : Restart) (now : Nat) : (Deployment.new restart now : Deployment γ).Kept :=
  .of_running ⟨rfl, .nil, .nil, nofun, .nil, ⟨.nil, List.nil_subset _⟩, rfl, .nil⟩ rfl rfl

theorem after (h : d.Kept) (moves : List (Move γ)) : (d.after moves).Kept :=
  after_of_turns h (fun _ => expects) (fun _ _ => turn) moves

end Kept

/-! ### Stopping -/

/-- The agent stops with an outcome or has ended with it. -/
def Stops (d : Deployment γ) (outcome : Outcome) : Prop :=
  d.agent.phase = .stopping outcome ∨ d.agent.phase = .ended outcome

omit [DecidableEq γ] in
theorem Stops.ne_running {outcome : Outcome} (h : d.Stops outcome) :
    d.agent.phase ≠ .running := by
  rcases h with h | h <;> rw [h] <;> nofun

omit [DecidableEq γ] in
theorem Stops.inj {o o' : Outcome} (h : d.Stops o) (h' : d.Stops o') : o = o' := by
  rcases h with h | h <;> rcases h' with h' | h' <;> rw [h] at h' <;> cases h' <;> rfl

/-- No turn leads back to work, and none makes another outcome of it. -/
theorem Stops.turn {outcome : Outcome} {d' : Deployment γ} (h : d.Stops outcome)
    (hturn : Turn d d') : d'.Stops outcome := by
  have hidle : d.agent.phase ≠ .running := h.ne_running
  cases hturn with
  | wait deadline => exact h
  | exit failure hrun => exact h
  | again hphase hsame => exact absurd hphase hidle
  | schedule hphase hother => exact absurd hphase hidle
  | start hphase hdesired hcurrent => exact absurd hphase hidle
  | settle hphase hreports hfine => exact absurd hphase hidle
  | retry deadline hphase hreports hlost hbudget => exact absurd hphase hidle
  | giveUp hphase hreports hlost hbudget => exact absurd hphase hidle
  | drain hphase hreports hleft => exact h
  | finish hphase hreports hleft =>
    rcases h with h | h
    · rw [hphase] at h
      exact .inr (congrArg Phase.ended (Phase.stopping.inj h))
    · rw [hphase] at h
      cases h
  | shutdown hphase => exact absurd hphase hidle

theorem Kept.ends {outcome : Outcome} (h : d.Kept) (hphase : d.agent.phase = .stopping outcome)
    {moves : List (Move γ)} (hnone : (d.after moves).history.live = []) :
    (d.after moves).agent.phase = .ended outcome := by
  have hstops : (d.after moves).Kept ∧ (d.after moves).Stops outcome :=
    after_of_turns (P := fun d => d.Kept ∧ d.Stops outcome) ⟨h, .inl hphase⟩
      (fun _ h => h.1.expects) (fun _ _ h hturn => ⟨h.1.turn hturn, h.2.turn hturn⟩) moves
  obtain ⟨hkept, hstopping | hended⟩ := hstops
  · exact absurd hnone (hkept.stopping outcome hstopping).1
  · exact hended

/-- Whatever happens, the epochs of an agent are the runs that were started and are not known to
have exited, under descending numbers. While it works, the newest of them is current. Each of its
clean-ups follows the exit of a run, and each exit is followed by one. An agent that stops has
aborted all live runs and ends when none is left; then it has cleaned up after all runs. -/
theorem epochs_are_disciplined (restart : Restart) (now : Nat) (moves : List (Move γ)) :
    let d := (Deployment.new restart now).after moves
    d.agent.epochs = d.history.live.map Run.entry ∧
    d.history.live.Perm (d.running ++ d.reports.map (·.1)) ∧
    (d.history.live.Pairwise fun r s => s.epoch < r.epoch) ∧
    (d.agent.phase = .running → d.agent.current = d.history.newest?.map (·.config)) ∧
    d.history.Orderly ∧
    d.history.gone.Nodup ∧ d.history.cleaned = d.history.gone.map (·.epoch) ∧
    (∀ outcome, d.agent.phase = .ended outcome →
      d.agent.current = none ∧ d.history.cleaned.Perm (d.history.started.map (·.epoch))) ∧
    ∀ outcome, d.agent.phase = .stopping outcome →
      (∀ run ∈ d.history.live, .aborted run.epoch ∈ d.history) ∧
      ∀ more, (d.after more).history.live = [] → (d.after more).agent.phase = .ended outcome := by
  intro d
  have h : d.Kept := (Kept.new restart now).after moves
  refine ⟨h.epochs, h.whole, h.descend, h.running, h.orderly, h.gone.1, h.cleaned,
    fun outcome hphase => ?_, fun outcome hphase =>
      ⟨(h.stopping outcome hphase).2, fun more hnone => h.ends hphase hnone⟩⟩
  have hall : d.history.started ⊆ d.history.gone := by
    intro run hstarted
    by_contra hunknown
    have hlive : run ∈ d.history.live := History.mem_live.mpr ⟨hstarted, hunknown⟩
    rw [(h.ended outcome hphase).1] at hlive
    cases hlive
  have hperm : d.history.gone.Perm d.history.started :=
    (List.perm_ext_iff_of_nodup h.gone.1 h.started).mpr fun run =>
      ⟨fun hgone => h.gone.2 hgone, fun hstarted => hall hstarted⟩
  rw [h.cleaned]
  exact ⟨(h.ended outcome hphase).2, hperm.map _⟩

end Deployment

end MeshControl.Agent
