import MeshControl.Config.Controller
import MeshControl.Proofs.Config.History

/-!
Everything that a controller can do. A turn is one of seven things, and only one of them touches
the snapshot or reports anything; a call reaches the store and may ask for another pass.
-/
namespace MeshControl.Config

/-- Whether a call was a write and succeeded. -/
def Answer.succeeded : Answer → Bool
  | .written result => result.isOk
  | .deleted result => result.isOk
  | .found _ | .listed _ => false

namespace Controller

variable {σ : Type}

/-- The controller with another store under it. -/
def withStore (c : Controller σ) (store : σ) : Controller σ := { c with store }

theorem handlersOf_register (c : Controller σ) (type other : String) (g : Nat) :
    (c.register type g).handlersOf other =
      c.handlersOf other ++ if other = type then [g] else [] := by
  rw [register, handlersOf, Table.find?_insert]
  split
  · next heq => rw [heq, Option.getD_some]
  · rw [List.append_nil, handlersOf]

theorem start_of_idle {c : Controller σ} (h : c.phase = .idle) (now : Nat) :
    c.start now = { c with phase := .waiting now } := by
  rw [start, h]

theorem start_of_running {c : Controller σ} (h : c.phase ≠ .idle) (now : Nat) :
    c.start now = c := by
  rw [start]
  split
  · next hidle => exact absurd hidle h
  · rfl

theorem tick_le_nextTick {c : Controller σ} {tick now : Nat} (h : tick ≤ now) :
    c.nextTick tick now ≤ now + c.resync := by
  rw [nextTick]
  split <;> omega

theorem nextTick_of_le {c : Controller σ} {tick now : Nat} (h : now ≤ tick) :
    c.nextTick tick now = tick + c.resync := by
  have hontime : ¬ tick + tickTolerance < now := by omega
  rw [nextTick, if_neg hontime]

theorem lt_nextTick {c : Controller σ} {tick now : Nat} (hresync : 0 < c.resync)
    (h : tick ≤ now) : tick < c.nextTick tick now := by
  rw [nextTick]
  split <;> omega

/-! ### What a turn can be -/

variable [Store σ]

/-- One turn of a controller: the controller after it and what it reports. -/
inductive Turn (now : Nat) (c : Controller σ) : Controller σ → List Notice → Prop
  | relisted (tick : Nat) (hphase : c.phase = .waiting tick) (hrelist : c.relist = true) :
      Turn now c (beginPass { c with relist := false } tick) []
  | ticked (tick : Nat) (hphase : c.phase = .waiting tick) (hrelist : c.relist = false)
      (hdue : tick ≤ now) : Turn now c (c.beginPass (c.nextTick tick now)) []
  | listed (pass : Pass) (type : String) (rest : List String) (records : List Record)
      (hphase : c.phase = .listing pass) (hrest : pass.rest = type :: rest)
      (hok : (Store.list c.store type).1 = .ok records) :
      Turn now c
        { c.withStore (Store.list c.store type).2 with
          snapshot := c.snapshot.insert type (Fragile.sortByKey records)
          phase := .listing ⟨pass.tick, rest, 0, pass.complete⟩ }
        (c.notices type now (sweep (c.known type) (Fragile.sortByKey records)))
  | rested (pass : Pass) (type : String) (rest : List String) (reason : String)
      (hphase : c.phase = .listing pass) (hrest : pass.rest = type :: rest)
      (herror : (Store.list c.store type).1 = .error (.unavailable reason))
      (hmore : pass.failures + 1 < attempts) :
      Turn now c
        { c.withStore (Store.list c.store type).2 with
          phase := .resting (now + c.restAfter pass.failures)
            { pass with failures := pass.failures + 1 } } []
  | skipped (pass : Pass) (type : String) (rest : List String) (e : StoreError)
      (hphase : c.phase = .listing pass) (hrest : pass.rest = type :: rest)
      (herror : (Store.list c.store type).1 = .error e)
      (hlast : ∀ reason, e = .unavailable reason → attempts ≤ pass.failures + 1) :
      Turn now c
        { c.withStore (Store.list c.store type).2 with
          phase := .listing ⟨pass.tick, rest, 0, false⟩ } []
  | finished (pass : Pass) (hphase : c.phase = .listing pass) (hrest : pass.rest = []) :
      Turn now c { c with synced := c.synced || pass.complete, phase := .waiting pass.tick } []
  | woke (wake : Nat) (pass : Pass) (hphase : c.phase = .resting wake pass) (hdue : wake ≤ now) :
      Turn now c { c with phase := .listing pass } []

theorem turn_listType {c : Controller σ} {now : Nat} {pass : Pass} {type : String}
    {rest : List String} (hphase : c.phase = .listing pass) (hrest : pass.rest = type :: rest) :
    Turn now c (c.listType now pass type rest).1 (c.listType now pass type rest).2 := by
  cases hlist : Store.list c.store type with
  | mk result store =>
    cases result with
    | ok records =>
      have hturn : Turn now c _ _ :=
        .listed pass type rest records hphase hrest (by rw [hlist])
      rw [hlist] at hturn
      simp only [listType, hlist]
      exact hturn
    | error e =>
      have hskip : (∀ reason, e = .unavailable reason → attempts ≤ pass.failures + 1) →
          Turn now c
            { c.withStore store with phase := .listing ⟨pass.tick, rest, 0, false⟩ } [] := by
        intro hlast
        have hturn : Turn now c _ _ :=
          .skipped pass type rest e hphase hrest (by rw [hlist]) hlast
        rwa [hlist] at hturn
      cases e with
      | unavailable reason =>
        simp only [listType, hlist]
        split
        · next hmore =>
          have hturn : Turn now c _ _ :=
            .rested pass type rest reason hphase hrest (by rw [hlist]) hmore
          rw [hlist] at hturn
          exact hturn
        · next hlast => exact hskip fun _ _ => Nat.le_of_not_lt hlast
      | _ =>
        simp only [listType, hlist]
        exact hskip fun _ h => by cases h

theorem turn_cases {c c' : Controller σ} {now : Nat} {notices : List Notice}
    (h : c.turn now = some (c', notices)) : Turn now c c' notices := by
  rw [turn] at h
  split at h
  · cases h
  · next tick hphase =>
    split at h
    · next hrelist =>
      cases h
      exact .relisted tick hphase hrelist
    · next hrelist =>
      split at h
      · next hdue =>
        cases h
        exact .ticked tick hphase (Bool.eq_false_iff.mpr hrelist) hdue
      · cases h
  · next pass hphase =>
    split at h
    · next hrest =>
      cases h
      exact .finished pass hphase hrest
    · next type rest hrest =>
      have hturn : Turn now c _ _ := turn_listType hphase hrest
      rw [Option.some.inj h] at hturn
      exact hturn
  · next wake pass hphase =>
    split at h
    · next hdue =>
      cases h
      exact .woke wake pass hphase hdue
    · cases h

theorem Turn.resync_eq {c c' : Controller σ} {now : Nat} {notices : List Notice}
    (h : Turn now c c' notices) : c'.resync = c.resync := by
  cases h <;> rfl

/-- There is nothing to do for a controller that is idle, or whose next moment is to come. -/
theorem turn_eq_none_iff {c : Controller σ} {now : Nat} :
    c.turn now = none ↔ c.phase = .idle ∨
      (∃ tick, c.phase = .waiting tick ∧ c.relist = false ∧ now < tick) ∨
      ∃ wake pass, c.phase = .resting wake pass ∧ now < wake := by
  rw [turn]
  cases hphase : c.phase with
  | idle => simp
  | waiting tick =>
    cases hrelist : c.relist with
    | true => simp
    | false => simp
  | listing pass =>
    simp only
    split <;> simp
  | resting wake pass => simp

/-- A call leaves all but the store as it was, and asks for a pass if it wrote. -/
theorem perform_eq (c : Controller σ) (call : Call) :
    ∃ store, (call.perform c).2 =
      { c with store, relist := c.relist || (call.perform c).1.succeeded } := by
  have hkept : c = { c with relist := c.relist || false } := by rw [Bool.or_false]
  cases call with
  | get type key => exact ⟨c.store, hkept⟩
  | list type => exact ⟨c.store, hkept⟩
  | post content => exact ⟨(Store.post c.store content).2, rfl⟩
  | put content revision => exact ⟨(Store.put c.store content revision).2, rfl⟩
  | delete type key => exact ⟨(Store.delete c.store type key).2, rfl⟩

end Controller

end MeshControl.Config
