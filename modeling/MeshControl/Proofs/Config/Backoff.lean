import Mathlib.Algebra.Ring.Nat
import MeshControl.Proofs.Config.Convergence
import MeshControl.Proofs.Config.Listings
import MeshControl.Proofs.Config.Revisions

/-!
How long a controller rests while it lists one type in one pass. Each rest is twice as long as the
one before it and none is longer than the resync period, but all rests of a listing together can be.
-/
namespace MeshControl.Config

namespace Controller

variable {σ : Type}

/-- The rests after a number of failures in a row, one after another. -/
def restFor (c : Controller σ) (failures : Nat) : Nat :=
  ((List.range failures).map c.restAfter).sum

theorem restFor_succ (c : Controller σ) (failures : Nat) :
    c.restFor (failures + 1) = c.restFor failures + c.restAfter failures := by
  rw [restFor, List.range_succ, List.map_append, List.sum_append, restFor, List.map_singleton,
    List.sum_singleton]

/-- The rests stay within a period if there is at most one, or if the period has room for their
full lengths. -/
theorem restFor_le_resync_iff {c : Controller σ} (hresync : 0 < c.resync) {failures : Nat}
    (hfailures : failures < attempts) :
    c.restFor failures ≤ c.resync ↔
      failures ≤ 1 ∨ failures = 2 ∧ 30 ≤ c.resync ∨ 70 ≤ c.resync := by
  have hrest : ∀ n, c.restAfter n = min (10 * 2 ^ n) c.resync := fun _ => rfl
  match failures, hfailures with
  | 0, _ => simp [restFor]
  | 1, _ =>
    have hone : c.restFor 1 = min 10 c.resync := by simp [restFor, hrest]
    omega
  | 2, _ =>
    have htwo : c.restFor 2 = min 10 c.resync + min 20 c.resync := by
      simp [restFor, hrest, List.range_succ]
    omega
  | 3, _ =>
    have hthree : c.restFor 3 = min 10 c.resync + (min 20 c.resync + min 40 c.resync) := by
      simp [restFor, hrest, List.range_succ]
    omega

end Controller

namespace Session

variable {σ : Type} {t u : Session σ}

/-- The types that a pass which is under way has still to list. -/
def left? (t : Session σ) : Option (List String) := t.pass?.map (·.rest)

/-- What a session is while it lists a type that has failed some times in a row: it is to ask again,
or it rests until then. -/
inductive Asking (t : Session σ) (left : List String) (failures again : Nat) : Prop
  | listing (pass : Pass) (hphase : t.controller.phase = .listing pass) (hrest : pass.rest = left)
      (hfailures : pass.failures = failures) (hnow : t.now = again)
  | resting (pass : Pass) (hphase : t.controller.phase = .resting again pass)
      (hrest : pass.rest = left) (hfailures : pass.failures = failures) (hnow : t.now ≤ again)

theorem Asking.left?_eq {left : List String} {failures again : Nat}
    (h : t.Asking left failures again) : t.left? = some left := by
  cases h with
  | listing pass hphase hrest => rw [left?, pass?, hphase, Option.map_some, hrest]
  | resting pass hphase hrest => rw [left?, pass?, hphase, Option.map_some, hrest]

theorem Asking.of_listing {left : List String} {failures again : Nat} {pass : Pass}
    (h : t.Asking left failures again) (hphase : t.controller.phase = .listing pass) :
    pass.rest = left ∧ pass.failures = failures ∧ t.now = again := by
  cases h with
  | listing pass' hphase' hrest hfailures hnow =>
    cases hphase'.symm.trans hphase
    exact ⟨hrest, hfailures, hnow⟩
  | resting pass' hphase' => cases hphase'.symm.trans hphase

theorem Asking.of_resting {left : List String} {failures again wake : Nat} {pass : Pass}
    (h : t.Asking left failures again) (hphase : t.controller.phase = .resting wake pass) :
    pass.rest = left ∧ pass.failures = failures ∧ wake = again ∧ t.now ≤ again := by
  cases h with
  | listing pass' hphase' => cases hphase'.symm.trans hphase
  | resting pass' hphase' hrest hfailures hnow =>
    cases hphase'.symm.trans hphase
    exact ⟨hrest, hfailures, rfl, hnow⟩

theorem Asking.ne_none {left : List String} {failures again : Nat}
    (h : t.Asking left failures again) : t.pass? ≠ none := by
  intro hnone
  have hleft := h.left?_eq
  rw [left?, hnone] at hleft
  cases hleft

variable [Store σ]

/-- The moves from when the turn of a type has come in a pass until all but its last reply has
been heard. The act that follows them hears that reply. -/
structure IsListing (t : Session σ) (type : String) (during : List (Move σ)) : Prop where
  begins : ∃ pass, t.controller.phase = .listing pass ∧ pass.failures = 0 ∧
    pass.rest.head? = some type
  lasts : ∀ m ∈ t.moments during, m.left? = t.left?
  ends : (t.after (during ++ [.act])).left? ≠ t.left?

theorem now_move {m : Move σ} (hm : ∀ time, m ≠ .wait time) : (t.move m).now = t.now := by
  cases m with
  | wait time => exact absurd rfl (hm time)
  | act => exact t.acted.now_eq
  | register | change | call | start | stop => rfl

/-- The clock moves on in a rest, and not beyond its end. -/
theorem Asking.follow {left : List String} {failures again : Nat}
    (h : t.Asking left failures again) {m : Move σ}
    (hclock : ∀ time, m = .wait time → t.Settled ∧
      ∀ due, t.controller.due? = some due → t.now + time ≤ due)
    (hphase : (t.move m).controller.phase = t.controller.phase) :
    (t.move m).Asking left failures again := by
  by_cases hwait : ∃ time, m = .wait time
  · obtain ⟨time, rfl⟩ := hwait
    obtain ⟨hsettled, hdue⟩ := hclock time rfl
    cases h with
    | listing pass hphase' =>
      rcases Controller.turn_eq_none_iff.mp hsettled.2 with
        hidle | ⟨_, hwaits, -⟩ | ⟨_, _, hrests, -⟩
      · cases hidle.symm.trans hphase'
      · cases hwaits.symm.trans hphase'
      · cases hrests.symm.trans hphase'
    | resting pass hphase' hrest hfailures =>
      have hlater := hdue again (by rw [Controller.due?, hphase'])
      exact .resting pass (hphase.trans hphase') hrest hfailures hlater
  · have hnow : (t.move m).now = t.now := now_move fun time heq => hwait ⟨time, heq⟩
    cases h with
    | listing pass hphase' hrest hfailures hsame =>
      exact .listing pass (hphase.trans hphase') hrest hfailures (hnow.trans hsame)
    | resting pass hphase' hrest hfailures hlater =>
      exact .resting pass (hphase.trans hphase') hrest hfailures (hnow ▸ hlater)

/-- How far the listing of a type has come along some moves: the store was unavailable for some
reasons, and the time that has passed since is that of the rests. -/
structure Delayed (t : Session σ) (type : String) (rest : List String) (moves : List (Move σ))
    (reasons : List String) : Prop where
  heard : t.replies moves = reasons.map fun reason => (type, .error (.unavailable reason))
  patient : reasons.length < Controller.attempts
  asking : (t.after moves).Asking (type :: rest) reasons.length
    (t.now + t.controller.restFor reasons.length)

variable {type : String} {rest : List String} {moves : List (Move σ)} {m : Move σ}
  {reasons : List String}

/-- A type was listed, or skipped, after all rests. -/
def Listed (t : Session σ) (type : String) (moves : List (Move σ)) : Prop :=
  ∃ l : Listing, l.type = type ∧ l.replies = t.replies moves ∧
    (t.after moves).now = t.now + t.controller.restFor l.reasons.length

theorem Delayed.quiet (h : t.Delayed type rest moves reasons)
    (hheard : (t.after moves).heard m = []) (hafter : t.after (moves ++ [m]) = u)
    (hasking : u.Asking (type :: rest) reasons.length
      (t.now + t.controller.restFor reasons.length)) :
    t.Delayed type rest (moves ++ [m]) reasons := by
  subst hafter
  exact ⟨by rw [replies_concat, hheard, List.append_nil, h.heard], h.patient, hasking⟩

theorem Delayed.retry (h : t.Delayed type rest moves reasons) {reason : String}
    (hmore : reasons.length + 1 < Controller.attempts)
    (hheard : (t.after moves).heard m = [(type, .error (.unavailable reason))])
    (hafter : t.after (moves ++ [m]) = u)
    (hasking : u.Asking (type :: rest) (reasons.length + 1)
      (t.now + t.controller.restFor reasons.length + t.controller.restAfter reasons.length)) :
    t.Delayed type rest (moves ++ [m]) (reasons ++ [reason]) := by
  subst hafter
  have hlength : (reasons ++ [reason]).length = reasons.length + 1 := List.length_append
  refine ⟨?_, hlength ▸ hmore, ?_⟩
  · rw [replies_concat, h.heard, hheard, List.map_append]
    rfl
  · rw [hlength, Controller.restFor_succ, ← Nat.add_assoc]
    exact hasking

theorem Delayed.finish (h : t.Delayed type rest moves reasons) {pass : Pass}
    (hphase : (t.after moves).controller.phase = .listing pass) {last : Reply}
    (hheard : (t.after moves).heard m = [(type, last)])
    (hfinal : ∀ reason, last = .error (.unavailable reason) →
      reasons.length + 1 = Controller.attempts)
    (hafter : t.after (moves ++ [m]) = u) (hnow : u.now = (t.after moves).now) :
    t.Listed type (moves ++ [m]) := by
  subst hafter
  refine ⟨⟨type, reasons, last, h.patient, hfinal⟩, rfl, ?_, ?_⟩
  · rw [replies_concat, h.heard, hheard]
    rfl
  · exact hnow.trans (h.asking.of_listing hphase).2.2

/-- A move leads on in a listing, or it brings the last reply. -/
theorem Delayed.move (h : t.Delayed type rest moves reasons) (m : Move σ)
    (hclock : ∀ time, m = .wait time → (t.after moves).Settled ∧
      ∀ due, (t.after moves).controller.due? = some due → (t.after moves).now + time ≤ due) :
    (∃ reasons', t.Delayed type rest (moves ++ [m]) reasons') ∨
      (t.after (moves ++ [m])).left? ≠ some (type :: rest) ∧ t.Listed type (moves ++ [m]) := by
  have hnext : t.after (moves ++ [m]) = (t.after moves).move m := t.after_concat moves m
  have hfollow := h.asking.follow hclock
  have hmoved := (t.after moves).moved m
  rw [← hnext] at hmoved hfollow
  have hshorter : ¬ some rest = some (type :: rest) := by simp
  generalize hheard : (t.after moves).heard m = heard at hmoved
  generalize hafter : t.after (moves ++ [m]) = next at hmoved hfollow ⊢
  cases hmoved with
  | aside _ _ _ _ hphase => exact .inl ⟨reasons, h.quiet hheard hafter (hfollow hphase)⟩
  | outside _ _ _ _ hpass | begun _ _ _ hpass => exact absurd hpass h.asking.ne_none
  | listed pass type' rest' records hqueue hphase hrest =>
    obtain ⟨hleft, -, -⟩ := h.asking.of_listing hphase
    obtain ⟨rfl, rfl⟩ := List.cons.inj (hrest.symm.trans hleft)
    exact .inr ⟨hshorter, h.finish hphase hheard (fun _ hlast => by cases hlast) hafter rfl⟩
  | rested pass type' rest' reason hqueue hphase hrest hmore =>
    obtain ⟨hleft, hfailures, hnow⟩ := h.asking.of_listing hphase
    obtain ⟨rfl, rfl⟩ := List.cons.inj (hrest.symm.trans hleft)
    rw [hfailures] at hmore
    refine .inl ⟨reasons ++ [reason], h.retry hmore hheard hafter ?_⟩
    have hagain : (t.after moves).now + (t.after moves).controller.restAfter pass.failures =
        t.now + t.controller.restFor reasons.length + t.controller.restAfter reasons.length := by
      rw [Controller.restAfter, resync_after, hfailures, hnow, Controller.restAfter]
    rw [← hagain, ← hfailures]
    exact .resting _ rfl hleft rfl (Nat.le_add_right _ _)
  | skipped pass type' rest' e hqueue hphase hrest hlast =>
    obtain ⟨hleft, hfailures, -⟩ := h.asking.of_listing hphase
    obtain ⟨rfl, rfl⟩ := List.cons.inj (hrest.symm.trans hleft)
    refine .inr ⟨hshorter, h.finish hphase hheard (fun reason heq => ?_) hafter rfl⟩
    have hfull := hlast reason (Except.error.inj heq)
    have hpatient := h.patient
    omega
  | woke wake pass hqueue hphase hdue =>
    obtain ⟨hleft, hfailures, rfl, hnow⟩ := h.asking.of_resting hphase
    exact .inl ⟨reasons, h.quiet hheard hafter
      (.listing pass rfl hleft hfailures (Nat.le_antisymm hnow hdue))⟩
  | finished pass hqueue hphase hrest =>
    obtain ⟨hleft, -⟩ := h.asking.of_listing hphase
    cases hrest.symm.trans hleft

theorem Delayed.append (h : t.Delayed type rest moves reasons) {more : List (Move σ)}
    (hlasts : ∀ m ∈ (t.after moves).moments more, m.left? = some (type :: rest))
    (hpunctual : (t.after moves).Punctual more) :
    ∃ reasons', t.Delayed type rest (moves ++ more) reasons' := by
  induction more generalizing moves reasons with
  | nil => exact ⟨reasons, by rwa [List.append_nil]⟩
  | cons m more ih =>
    obtain ⟨hclock, hlater⟩ := hpunctual
    rw [← after_concat] at hlater
    have hlasts' : ∀ k ∈ (t.after (moves ++ [m])).moments more,
        k.left? = some (type :: rest) := by
      rw [after_concat]
      exact fun k hk => hlasts k (List.mem_cons_of_mem _ hk)
    rcases h.move m hclock with ⟨reasons', hnext⟩ | ⟨hleaves, -⟩
    · rw [List.append_cons]
      exact ih hnext hlasts' hlater
    · exact absurd (hlasts' _ (mem_moments_self _ _)) hleaves

/-- Under a clock that is on time, listing a type takes as long as the rests after its failures,
each twice as long as the one before and none longer than the resync period. That is within the
period if and only if there were few rests or the period has room for them. -/
theorem time_of_listing (t : Session σ) (type : String) (during : List (Move σ))
    (hresync : 0 < t.controller.resync) (hlisting : t.IsListing type during)
    (hpunctual : t.Punctual during) :
    let u := t.after (during ++ [.act])
    ∃ l : Listing, l.type = type ∧ l.replies = t.replies (during ++ [.act]) ∧
      u.now = t.now +
        ((List.range l.reasons.length).map fun i => min (10 * 2 ^ i) t.controller.resync).sum ∧
      (u.now - t.now ≤ t.controller.resync ↔
        l.reasons.length ≤ 1 ∨ l.reasons.length = 2 ∧ 30 ≤ t.controller.resync ∨
          70 ≤ t.controller.resync) := by
  intro u
  obtain ⟨pass, hphase, hfailures, htype⟩ := hlisting.begins
  obtain ⟨rest, hrest⟩ := List.head?_eq_some_iff.mp htype
  have hbegun : t.Delayed type rest [] [] :=
    ⟨rfl, Nat.succ_pos _, .listing pass hphase hrest hfailures rfl⟩
  have hleft : t.left? = some (type :: rest) := hbegun.asking.left?_eq
  obtain ⟨reasons, hdelayed⟩ := hbegun.append (fun m hm => (hlisting.lasts m hm).trans hleft)
    hpunctual
  rw [List.nil_append] at hdelayed
  rcases hdelayed.move .act nofun with ⟨reasons', hlater⟩ | ⟨-, l, rfl, hreplies, hnow⟩
  · exact absurd (hlater.asking.left?_eq.trans hleft.symm) hlisting.ends
  · have hwithin := Controller.restFor_le_resync_iff hresync l.patient
    refine ⟨l, rfl, hreplies, hnow, ?_⟩
    rw [← hwithin, hnow, Nat.add_sub_cancel_left]

/-! ### A period of fifty -/

/-- A store of notes that is not available the first times it is asked to list them. -/
def unsteady (times : Nat) : Fragile Memory where
  store := Memory.new Memory.noteCatalog
  overlay := []
  outages := [⟨.list, some "note", some times, .unavailable "down"⟩]
  sorted := true

/-- The first pass has begun. -/
def begun (times : Nat) : Session (Fragile Memory) :=
  (new (unsteady times) 50 0).after [.start, .act]

/-- Each time the store is asked, the controller rests and wakes again. -/
def resting (lengths : List Nat) : List (Move (Fragile Memory)) :=
  lengths.flatMap fun length => [.act, .wait length, .act]

theorem isListing_of_all {during : List (Move σ)} {pass : Pass}
    (hphase : t.controller.phase = .listing pass) (hfailures : pass.failures = 0)
    (htype : pass.rest.head? = some type)
    (hlasts : ((t.moments during).all fun m => m.left? == t.left?) = true)
    (hends : (t.after (during ++ [.act])).left? ≠ t.left?) : t.IsListing type during where
  begins := ⟨pass, hphase, hfailures, htype⟩
  lasts m hm := beq_iff_eq.mp (List.all_eq_true.mp hlasts m hm)
  ends := hends

theorem time_of_listing_within_period :
    (begun 2).IsListing "note" (resting [10, 20]) ∧ (begun 2).Punctual (resting [10, 20]) ∧
      ((begun 2).after (resting [10, 20] ++ [.act])).now - (begun 2).now ≤ 50 := by
  have hlisting : (begun 2).IsListing "note" (resting [10, 20]) :=
    isListing_of_all rfl rfl rfl (by decide +kernel) (by decide +kernel)
  have hpunctual : (begun 2).Punctual (resting [10, 20]) := by
    refine .cons nofun (.wait 10 (settled_of_isNone ?_ ?_) ?_ ?_ (.cons nofun ?_))
    any_goals decide +kernel
    refine .cons nofun (.wait 30 (settled_of_isNone ?_ ?_) ?_ ?_ (.cons nofun trivial))
    all_goals decide +kernel
  obtain ⟨l, -, hreplies, -, hwithin⟩ :=
    time_of_listing (begun 2) "note" (resting [10, 20]) (by decide) hlisting hpunctual
  have hlength : l.reasons.length + 1 = 3 := by
    rw [← l.length_replies, hreplies]
    decide +kernel
  exact ⟨hlisting, hpunctual, hwithin.mpr (.inr (.inl ⟨Nat.succ.inj hlength, by decide⟩))⟩

/-- Three rests take longer than the period, of which none is longer. -/
theorem time_of_listing_beyond_period :
    (begun 3).controller.resync = 50 ∧ (begun 3).IsListing "note" (resting [10, 20, 40]) ∧
      (begun 3).Punctual (resting [10, 20, 40]) ∧
      ((begun 3).after (resting [10, 20, 40] ++ [.act])).now - (begun 3).now = 70 := by
  refine ⟨rfl, isListing_of_all rfl rfl rfl (by decide +kernel) (by decide +kernel), ?_,
    by decide +kernel⟩
  refine .cons nofun (.wait 10 (settled_of_isNone ?_ ?_) ?_ ?_ (.cons nofun ?_))
  any_goals decide +kernel
  refine .cons nofun (.wait 30 (settled_of_isNone ?_ ?_) ?_ ?_ (.cons nofun ?_))
  any_goals decide +kernel
  refine .cons nofun (.wait 70 (settled_of_isNone ?_ ?_) ?_ ?_ (.cons nofun trivial))
  all_goals decide +kernel

end Session

end MeshControl.Config
