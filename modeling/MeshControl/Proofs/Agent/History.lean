import Mathlib.Data.List.MinMax
import MeshControl.Agent.Basic

/-!
The history of an agent: which runs of the proxy it has started, which of them it knows to have
exited, and what else it did. A history is read backwards, so the records that stand behind one
are what had happened by then.
-/
namespace MeshControl.Agent

/-- A run of the proxy. Several runs may have one number, one after the other. -/
structure Run (γ : Type) where
  /-- How much had happened when it was started. No two runs agree in that. -/
  serial : Nat
  epoch : Nat
  config : γ
deriving DecidableEq

instance {γ : Type} [DecidableEq γ] : LawfulBEq (Run γ) := inferInstance

inductive Record (γ : Type) where
  /-- The agent took a configuration that was scheduled. -/
  | scheduled (config : γ)
  | started (run : Run γ)
  /-- The agent was told that a run has exited, and why if it failed. -/
  | received (run : Run γ) (failure : Option String)
  | aborted (epoch : Nat)
  | cleaned (epoch : Nat)
  | finished (outcome : Outcome)

namespace Record

variable {γ : Type}

def started? : Record γ → Option (Run γ)
  | started run => some run
  | _ => none

def received? : Record γ → Option (Run γ)
  | received run _ => some run
  | _ => none

def cleaned? : Record γ → Option Nat
  | cleaned epoch => some epoch
  | _ => none

end Record

def Run.entry {γ : Type} (run : Run γ) : Nat × γ := (run.epoch, run.config)

/-- The records of what has happened, the last first. -/
abbrev History (γ : Type) := List (Record γ)

namespace History

variable {γ : Type}

def started (h : History γ) : List (Run γ) := h.filterMap Record.started?

/-- The runs that are known to have exited. -/
def gone (h : History γ) : List (Run γ) := h.filterMap Record.received?

/-- The numbers under which the agent has cleaned up, as often as it has. -/
def cleaned (h : History γ) : List Nat := h.filterMap Record.cleaned?

/-- The configuration that was scheduled last. -/
def desired? : History γ → Option γ
  | [] => none
  | .scheduled config :: _ => some config
  | _ :: h => desired? h

variable [DecidableEq γ]

/-- The runs that were started and are not known to have exited. -/
def live (h : History γ) : List (Run γ) := h.started.filter (· ∉ h.gone)

/-- The live run with the highest number. -/
def newest? (h : History γ) : Option (Run γ) := h.live.argmax (·.epoch)

def nextEpoch (h : History γ) : Nat := (h.newest?.map (·.epoch + 1)).getD 0

/-- The rules that every record of a history keeps to. -/
structure Orderly (h : History γ) : Prop where
  /-- A run that is started is a new one. Its number follows the highest of the live runs, or it is
  0 if there are none. -/
  starts : ∀ run earlier, .started run :: earlier <:+ h →
    run ∉ started earlier ∧ run.epoch = nextEpoch earlier
  /-- What exits is live. At once it is cleaned up after. -/
  exits : ∀ run failure earlier, .received run failure :: earlier <:+ h →
    run ∈ live earlier ∧ .cleaned run.epoch :: .received run failure :: earlier <:+ h
  /-- Nothing is cleaned up without an exit, nor while another run of the number is live. -/
  cleans : ∀ epoch earlier, .cleaned epoch :: earlier <:+ h →
    (∃ run failure before, earlier = .received run failure :: before ∧ run.epoch = epoch) ∧
      ∀ run ∈ live earlier, run.epoch ≠ epoch

theorem mem_live {h : History γ} {run : Run γ} :
    run ∈ h.live ↔ run ∈ h.started ∧ run ∉ h.gone := by
  simp [live]

theorem live_started {h : History γ} {run : Run γ} (hnew : run ∉ h.gone) :
    live (.started run :: h) = run :: h.live := by
  have hgone : gone (.started run :: h) = h.gone := rfl
  have hstarted : started (.started run :: h) = run :: h.started := rfl
  rw [live, hgone, hstarted, List.filter_cons_of_pos (by simpa using hnew), live]

theorem live_received (h : History γ) (run : Run γ) (failure : Option String) :
    live (.received run failure :: h) = h.live.filter (· != run) := by
  have hgone : gone (.received run failure :: h) = run :: h.gone := rfl
  have hstarted : started (.received run failure :: h) = h.started := rfl
  rw [live, hgone, hstarted, live, List.filter_filter]
  refine List.filter_congr fun r _ => ?_
  rw [Bool.eq_iff_iff]
  simp [not_or]

theorem live_cleaned (h : History γ) (epoch : Nat) :
    live (.cleaned epoch :: h) = h.live := rfl

omit [DecidableEq γ] in
/-- What does not look at one abortion does not look at many. -/
theorem eq_of_aborts {α : Type} (f : History γ → α)
    (hf : ∀ epoch h, f (.aborted epoch :: h) = f h) (h : History γ) (epochs : List Nat) :
    f ((epochs.map Record.aborted).reverse ++ h) = f h := by
  induction epochs generalizing h with
  | nil => rfl
  | cons epoch epochs ih =>
    rw [List.map_cons, List.reverse_cons, List.append_assoc]
    exact (ih (.aborted epoch :: h)).trans (hf epoch h)

omit [DecidableEq γ] in
theorem started_aborts (h : History γ) (epochs : List Nat) :
    started ((epochs.map Record.aborted).reverse ++ h) = h.started :=
  eq_of_aborts started (fun _ _ => rfl) h epochs

omit [DecidableEq γ] in
theorem gone_aborts (h : History γ) (epochs : List Nat) :
    gone ((epochs.map Record.aborted).reverse ++ h) = h.gone :=
  eq_of_aborts gone (fun _ _ => rfl) h epochs

omit [DecidableEq γ] in
theorem cleaned_aborts (h : History γ) (epochs : List Nat) :
    cleaned ((epochs.map Record.aborted).reverse ++ h) = h.cleaned :=
  eq_of_aborts cleaned (fun _ _ => rfl) h epochs

theorem live_aborts (h : History γ) (epochs : List Nat) :
    live ((epochs.map Record.aborted).reverse ++ h) = h.live :=
  eq_of_aborts live (fun _ _ => rfl) h epochs

/-- Where numbers descend the first run is the newest. -/
theorem newest?_eq_head? {h : History γ} (hdescend : h.live.Pairwise fun r s => s.epoch < r.epoch) :
    h.newest? = h.live.head? := by
  rw [newest?]
  cases hlive : h.live with
  | nil => rfl
  | cons run rest =>
    rw [hlive, List.pairwise_cons] at hdescend
    rw [List.argmax_cons]
    cases hmax : rest.argmax (·.epoch) with
    | none => rfl
    | some other =>
      have hbelow : other.epoch < run.epoch := hdescend.1 other (List.argmax_mem hmax)
      simp [Nat.not_lt.mpr hbelow.le]

theorem nextEpoch_eq {h : History γ} (hdescend : h.live.Pairwise fun r s => s.epoch < r.epoch) :
    h.nextEpoch = (h.live.head?.map (·.epoch + 1)).getD 0 := by
  rw [nextEpoch, newest?_eq_head? hdescend]

/-- The next number is above those of all live runs. -/
theorem epoch_lt_nextEpoch {h : History γ} {run : Run γ} (hrun : run ∈ h.live) :
    run.epoch < h.nextEpoch := by
  rw [nextEpoch, newest?]
  cases hmax : h.live.argmax (·.epoch) with
  | none =>
    rw [List.argmax_eq_none.mp hmax] at hrun
    cases hrun
  | some top => exact Nat.lt_succ_of_le (List.le_of_mem_argmax hrun hmax)

namespace Orderly

variable {h : History γ}

theorem nil : Orderly ([] : History γ) where
  starts _ _ hsuffix := by simp at hsuffix
  exits _ _ _ hsuffix := by simp at hsuffix
  cleans _ _ hsuffix := by simp at hsuffix

/-- A record that neither starts a run nor tells of an exit keeps the rules. -/
theorem cons {record : Record γ} (ho : h.Orderly)
    (hstarts : ∀ run, record = .started run → run ∉ h.started ∧ run.epoch = h.nextEpoch)
    (hexits : ∀ run failure, record ≠ .received run failure)
    (hcleans : ∀ epoch, record ≠ .cleaned epoch) : Orderly (record :: h) where
  starts run earlier hsuffix := by
    rcases List.suffix_cons_iff.mp hsuffix with heq | hbefore
    · obtain ⟨hrecord, rfl⟩ := List.cons.inj heq
      exact hstarts run hrecord.symm
    · exact ho.starts run earlier hbefore
  exits run failure earlier hsuffix := by
    rcases List.suffix_cons_iff.mp hsuffix with heq | hbefore
    · exact absurd (List.cons.inj heq).1.symm (hexits run failure)
    · exact (ho.exits run failure earlier hbefore).imp_right (·.trans (List.suffix_cons _ _))
  cleans epoch earlier hsuffix := by
    rcases List.suffix_cons_iff.mp hsuffix with heq | hbefore
    · exact absurd (List.cons.inj heq).1.symm (hcleans epoch)
    · exact ho.cleans epoch earlier hbefore

theorem start {run : Run γ} (ho : h.Orderly) (hnew : run ∉ h.started)
    (hepoch : run.epoch = h.nextEpoch) : Orderly (.started run :: h) :=
  ho.cons (by rintro _ ⟨⟩; exact ⟨hnew, hepoch⟩) nofun nofun

theorem schedule (ho : h.Orderly) (config : γ) : Orderly (.scheduled config :: h) :=
  ho.cons nofun nofun nofun

theorem finish (ho : h.Orderly) (outcome : Outcome) : Orderly (.finished outcome :: h) :=
  ho.cons nofun nofun nofun

theorem aborts (ho : h.Orderly) (epochs : List Nat) :
    Orderly ((epochs.map Record.aborted).reverse ++ h) := by
  induction epochs generalizing h with
  | nil => exact ho
  | cons epoch epochs ih =>
    rw [List.map_cons, List.reverse_cons, List.append_assoc]
    exact ih (ho.cons nofun nofun nofun)

/-- The exit of a live run and the clean-up after it. -/
theorem exit {run : Run γ} (ho : h.Orderly) (failure : Option String) (hlive : run ∈ h.live)
    (halone : ∀ r ∈ h.live, r.epoch = run.epoch → r = run) :
    Orderly (.cleaned run.epoch :: .received run failure :: h) where
  starts r earlier hsuffix := by
    rcases List.suffix_cons_iff.mp hsuffix with heq | hsuffix
    · cases heq
    · rcases List.suffix_cons_iff.mp hsuffix with heq | hbefore
      · cases heq
      · exact ho.starts r earlier hbefore
  exits r reason earlier hsuffix := by
    rcases List.suffix_cons_iff.mp hsuffix with heq | hsuffix
    · cases heq
    · rcases List.suffix_cons_iff.mp hsuffix with heq | hbefore
      · cases heq
        exact ⟨hlive, List.suffix_rfl⟩
      · exact (ho.exits r reason earlier hbefore).imp_right fun hcleaned =>
          (hcleaned.trans (List.suffix_cons _ _)).trans (List.suffix_cons _ _)
  cleans epoch earlier hsuffix := by
    rcases List.suffix_cons_iff.mp hsuffix with heq | hsuffix
    · cases heq
      refine ⟨⟨run, failure, h, rfl, rfl⟩, fun r hr hepoch => ?_⟩
      rw [live_received, List.mem_filter, bne_iff_ne] at hr
      exact hr.2 (halone r hr.1 hepoch)
    · rcases List.suffix_cons_iff.mp hsuffix with heq | hbefore
      · cases heq
      · exact ho.cleans epoch earlier hbefore

end Orderly

end History

end MeshControl.Agent
