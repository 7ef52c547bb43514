import MeshControl.Proofs.Config.Passes
import MeshControl.Proofs.Config.Revisions

/-!
How recent a snapshot is where nothing is due. Every type was listed since the last write, which
asked for a pass, and since the last tick, which began one; and a controller gets there without
time, since each pass that begins was owed.
-/
namespace MeshControl.Config

/-- The tick that a controller will take next. -/
def Phase.tick : Phase → Nat
  | .idle => 0
  | .waiting tick => tick
  | .listing pass | .resting _ pass => pass.tick

namespace Session

variable {σ : Type} {catalog : Catalog} {past : List (Session σ)} {t : Session σ}

/-- The next tick is a whole number of periods after the start, and it has not been missed. -/
structure OnGrid (start : Nat) (t : Session σ) : Prop where
  begun : start ≤ t.now
  tick : ∃ k, t.controller.phase.tick = start + k * t.controller.resync
  ahead : t.now ≤ t.controller.phase.tick

theorem OnGrid.of_same {start : Nat} (h : OnGrid start t) {t' : Session σ} (hnow : t'.now = t.now)
    (hphase : t'.controller.phase = t.controller.phase)
    (hresync : t'.controller.resync = t.controller.resync) : OnGrid start t' := by
  obtain ⟨hbegun, htick, hahead⟩ := h
  exact ⟨hnow ▸ hbegun, by rw [hphase, hresync]; exact htick, by rw [hnow, hphase]; exact hahead⟩

/-- The last tick before a moment is a period before the next one. -/
theorem OnGrid.last_tick_le {start : Nat} (h : OnGrid start t) {time : Nat}
    (hahead : t.now < t.controller.phase.tick)
    (htime : t.controller.phase.tick ≤ time + t.controller.resync) :
    start + (t.now - start) / t.controller.resync * t.controller.resync ≤ time := by
  obtain ⟨hbegun, ⟨k, hk⟩, -⟩ := h
  have hperiods : (t.now - start) / t.controller.resync < k := by
    refine Nat.div_lt_of_lt_mul ?_
    rw [Nat.mul_comm]
    omega
  have hnext := Nat.mul_le_mul_right t.controller.resync hperiods
  rw [Nat.succ_mul] at hnext
  omega

variable [Store σ]

/-! ### Where nothing is due -/

/-- No notice is under way and nothing is due. -/
def Settled (t : Session σ) : Prop := t.queue = [] ∧ t.controller.turn t.now = none

theorem settled_of_isNone (hqueue : t.queue.isEmpty = true)
    (hturn : (t.controller.turn t.now).isNone = true) : t.Settled :=
  ⟨List.isEmpty_iff.mp hqueue, Option.isNone_iff_eq_none.mp hturn⟩

/-- The clock moves only while nothing is due, and not beyond what falls due next. -/
def Punctual (t : Session σ) : List (Move σ) → Prop
  | [] => True
  | m :: moves =>
    (∀ time, m = .wait time → t.Settled ∧
      ∀ due, t.controller.due? = some due → t.now + time ≤ due) ∧
    (t.move m).Punctual moves

theorem Punctual.cons {m : Move σ} {moves : List (Move σ)} (hm : ∀ time, m ≠ .wait time)
    (h : (t.move m).Punctual moves) : t.Punctual (m :: moves) :=
  ⟨fun time heq => absurd heq (hm time), h⟩

theorem Punctual.wait (due : Nat) {time : Nat} {moves : List (Move σ)} (hsettled : t.Settled)
    (hdue : t.controller.due? = some due) (htime : t.now + time ≤ due)
    (h : (t.move (.wait time)).Punctual moves) : t.Punctual (.wait time :: moves) := by
  refine ⟨fun time' heq => ⟨hsettled, fun due' hdue' => ?_⟩, h⟩
  cases heq
  rwa [← Option.some.inj (hdue.symm.trans hdue')]

theorem Punctual.acts (n : Nat) {moves : List (Move σ)}
    (h : (t.after (List.replicate n .act)).Punctual moves) :
    t.Punctual (List.replicate n .act ++ moves) := by
  induction n generalizing t with
  | zero => exact h
  | succ n ih => exact .cons nofun (ih h)

/-- Where nothing is due, a running controller waits for its next tick. -/
theorem Runs.waits (h : Runs past catalog t) (hsettled : t.Settled) :
    ∃ tick, t.controller.phase = .waiting tick ∧ t.controller.relist = false ∧ t.now < tick := by
  rcases Controller.turn_eq_none_iff.mp hsettled.2 with hidle | hwaits | ⟨wake, pass, hresting, -⟩
  · exact absurd hidle h.stage.ne_idle
  · exact hwaits
  · exact absurd hresting (h.stage.ne_resting wake pass)

/-- What a controller that waits has in its snapshot is as recent as its last pass, and no tick or
write has come since. -/
theorem Runs.recent {s : Session σ} {moves : List (Move σ)}
    (h : Runs (s.moments moves) catalog (s.after moves)) (hsettled : (s.after moves).Settled) :
    (s.after moves).now < (s.after moves).controller.phase.tick ∧
      ∀ type ∈ catalog.types, ∃ m ∈ s.moments moves, m.written = (s.after moves).written ∧
        (s.after moves).controller.phase.tick ≤ m.now + (s.after moves).controller.resync ∧
        ∃ l, (Store.list m.controller.store type).1 = .ok l ∧
          (s.after moves).controller.known type = Fragile.sortByKey l := by
  obtain ⟨tick, hphase, hrelist, hahead⟩ := h.waits hsettled
  have hticks : (s.after moves).controller.phase.tick = tick := by rw [hphase]; rfl
  rw [hticks]
  refine ⟨hahead, fun type htype => ?_⟩
  cases h.stage with
  | started tick' hphase' hdue =>
    have heq : tick' = tick := Phase.waiting.inj (hphase'.symm.trans hphase)
    omega
  | listing pass hphase' => cases hphase'.symm.trans hphase
  | waiting tick' hphase' hsince =>
    have heq : tick' = tick := Phase.waiting.inj (hphase'.symm.trans hphase)
    obtain ⟨begun, -, written, -, htick, hasked, hseen⟩ := hsince
    obtain ⟨m, hm, hbegun, hwrote, l, hl, hknown⟩ := hseen type htype List.not_mem_nil
    have hlast : written = (s.after moves).written := by
      rcases hasked with hrelisted | hlast
      · cases hrelist.symm.trans hrelisted
      · exact hlast
    have hbound := written_le_of_mem_moments hm
    exact ⟨m, hm, by omega, by omega, l, hl, hknown⟩

/-! ### Ticks -/

theorem OnGrid.turn {start : Nat} (h : OnGrid start t) {c : Controller σ} {queue : List Notice}
    (hturn : Controller.Turn t.now t.controller c queue) :
    OnGrid start { t with controller := c, queue } := by
  obtain ⟨hbegun, ⟨k, hk⟩, hahead⟩ := h
  cases hturn with
  | ticked tick hphase hrelist hdue =>
    rw [hphase] at hk hahead
    have hnext : t.controller.nextTick tick t.now = tick + t.controller.resync :=
      Controller.nextTick_of_le hahead
    refine ⟨hbegun, ⟨k + 1, ?_⟩, ?_⟩
    · change t.controller.nextTick tick t.now = start + (k + 1) * t.controller.resync
      rw [hnext, Nat.succ_mul, ← Nat.add_assoc]
      exact congrArg (· + t.controller.resync) hk
    · change t.now ≤ t.controller.nextTick tick t.now
      rw [hnext]
      exact Nat.le_add_right_of_le hahead
  | relisted tick hphase | listed pass type rest records hphase
  | rested pass type rest reason hphase | skipped pass type rest e hphase
  | finished pass hphase | woke wake pass hphase =>
    rw [hphase] at hk hahead
    exact ⟨hbegun, ⟨k, hk⟩, hahead⟩

theorem OnGrid.acted {start : Nat} (h : OnGrid start t) (hruns : Runs past catalog t)
    {t' : Session σ} (hacted : t.Acted t') : OnGrid start t' := by
  cases hacted with
  | delivered => exact h.of_same rfl rfl rfl
  | nothing => exact h
  | stopped _ hstop => cases hruns.stopping.symm.trans hstop
  | turned c notices hqueue hturn => exact h.turn hturn

theorem OnGrid.move {start : Nat} (h : OnGrid start t) (hruns : Runs past catalog t) {m : Move σ}
    (hm : m ≠ .stop) (hclock : ∀ time, m = .wait time → t.Settled ∧
      ∀ due, t.controller.due? = some due → t.now + time ≤ due) :
    OnGrid start (t.move m) := by
  cases m with
  | stop => exact absurd rfl hm
  | wait time =>
    obtain ⟨hsettled, hdue⟩ := hclock time rfl
    obtain ⟨tick, hphase, -⟩ := hruns.waits hsettled
    have hahead : t.now + time ≤ tick := hdue tick (by rw [Controller.due?, hphase])
    refine ⟨Nat.le_add_right_of_le h.begun, h.tick, ?_⟩
    change t.now + time ≤ t.controller.phase.tick
    rw [hphase]
    exact hahead
  | act => exact h.acted hruns t.acted
  | call call =>
    have hfollows := t.follows_call call
    exact h.of_same rfl hfollows.phase hfollows.resync
  | start =>
    rw [Session.move, Controller.start_of_running hruns.stage.ne_idle]
    exact h
  | register | change => exact h.of_same rfl rfl rfl

theorem Unstarted.onGrid (h : t.Unstarted) : OnGrid t.now (t.move .start) := by
  rw [Session.move, Controller.start_of_idle h.phase]
  exact ⟨Nat.le_refl _, ⟨0, (by rw [Nat.zero_mul]; rfl)⟩, Nat.le_refl _⟩

/-! ### Settling -/

/-- How many passes are owed at most: one for a write, and those of the ticks that are due. -/
def owed (t : Session σ) : Nat :=
  (t.now + 1 - t.controller.phase.tick) + t.controller.relist.toNat

/-- How many turns are left of the pass that is under way. -/
def turnsLeft (t : Session σ) : Nat :=
  match t.controller.phase with
  | .listing pass => pass.rest.length + 1
  | _ => 0

/-- A turn comes nearer to where nothing is due: a pass that begins was owed, and a pass that is
under way has a turn less to take. -/
theorem Runs.turn_decreases (h : Runs past catalog t)
    (hlists : ∀ (s : σ) type, type ∈ catalog.types → ∃ l, (Store.list s type).1 = .ok l)
    (hresync : 0 < t.controller.resync) {c : Controller σ} {queue : List Notice}
    (hturn : Controller.Turn t.now t.controller c queue) :
    owed { t with controller := c, queue } < t.owed ∨
      owed { t with controller := c, queue } = t.owed ∧
        turnsLeft { t with controller := c, queue } < t.turnsLeft := by
  cases hturn with
  | relisted tick hphase hrelist =>
    left
    rw [owed, owed, hphase, hrelist]
    exact Nat.lt_succ_self _
  | ticked tick hphase hrelist hdue =>
    left
    have hlater := Controller.lt_nextTick hresync hdue
    change t.now + 1 - t.controller.nextTick tick t.now + t.controller.relist.toNat < t.owed
    rw [owed, hphase]
    change _ < t.now + 1 - tick + t.controller.relist.toNat
    omega
  | listed pass type rest records hphase hrest | skipped pass type rest e hphase hrest =>
    right
    rw [owed, owed, turnsLeft, turnsLeft, hphase]
    refine ⟨rfl, ?_⟩
    simp only [hrest, List.length_cons]
    omega
  | rested pass type rest reason hphase hrest herror =>
    exact absurd herror (h.stage.list_ne_error hlists hphase hrest)
  | finished pass hphase hrest =>
    right
    rw [owed, owed, turnsLeft, turnsLeft, hphase]
    exact ⟨rfl, Nat.succ_pos _⟩
  | woke wake pass hphase => exact absurd hphase (h.stage.ne_resting wake pass)

theorem Runs.act_decreases (h : Runs past catalog t)
    (hlists : ∀ (s : σ) type, type ∈ catalog.types → ∃ l, (Store.list s type).1 = .ok l)
    (hresync : 0 < t.controller.resync) (hunsettled : ¬ t.Settled) :
    t.act.owed < t.owed ∨ t.act.owed = t.owed ∧
      (t.act.turnsLeft < t.turnsLeft ∨
        t.act.turnsLeft = t.turnsLeft ∧ t.act.queue.length < t.queue.length) := by
  cases hqueue : t.queue with
  | cons n queue =>
    rw [act_of_queue hqueue]
    exact .inr ⟨rfl, .inr ⟨rfl, Nat.lt_succ_self _⟩⟩
  | nil =>
    cases hturn : t.controller.turn t.now with
    | none => exact absurd ⟨hqueue, hturn⟩ hunsettled
    | some next =>
      rw [act_of_turn hqueue h.stopping hturn]
      rcases h.turn_decreases hlists hresync (Controller.turn_cases hturn) with hlt | ⟨heq, hlt⟩
      · exact .inl hlt
      · exact .inr ⟨heq, .inl hlt⟩

/-! ### From the start on -/

section

variable (hcatalog : ∀ s : σ, Store.catalog s = catalog)
  (hlists : ∀ (s : σ) type, type ∈ catalog.types → ∃ l, (Store.list s type).1 = .ok l)

include hcatalog hlists

theorem OnGrid.append {start : Nat} {s : Session σ} {moves : List (Move σ)}
    (h : OnGrid start (s.after moves)) (hruns : Runs (s.moments moves) catalog (s.after moves))
    {more : List (Move σ)} (hmore : .stop ∉ more) (hpunctual : (s.after moves).Punctual more) :
    OnGrid start (s.after (moves ++ more)) := by
  induction more generalizing moves with
  | nil =>
    rw [List.append_nil]
    exact h
  | cons m more ih =>
    obtain ⟨hclock, hlater⟩ := hpunctual
    have hm : m ≠ .stop := fun heq => hmore (heq ▸ List.mem_cons_self)
    have hnext : OnGrid start (s.after (moves ++ [m])) := by
      rw [after_concat]
      exact h.move hruns hm hclock
    have hruns' : Runs (s.moments (moves ++ [m])) catalog (s.after (moves ++ [m])) :=
      hruns.append hcatalog hlists fun hmem => hm (List.mem_singleton.mp hmem).symm
    rw [List.append_cons]
    refine ih hnext hruns' (fun hmem => hmore (List.mem_cons_of_mem m hmem)) ?_
    rw [after_concat]
    exact hlater

/-- The controller needs no time to get to where nothing is due. -/
theorem Runs.exists_settled {past : List (Session σ)} {t : Session σ}
    (h : Runs past catalog t) (hpast : t ∈ past) (hresync : 0 < t.controller.resync) :
    ∃ n, (t.after (List.replicate n .act)).Settled := by
  by_cases hsettled : t.Settled
  · exact ⟨0, hsettled⟩
  · have hact : Runs (t.act :: past) catalog t.act :=
      (h.acted hcatalog hlists hpast t.acted).mono (List.subset_cons_self _ _)
    have hresync' : 0 < t.act.controller.resync := (t.resync_move .act).symm ▸ hresync
    have hdecreases := h.act_decreases hlists hresync hsettled
    obtain ⟨n, hn⟩ := exists_settled hact List.mem_cons_self hresync'
    exact ⟨n + 1, hn⟩
termination_by (t.owed, t.turnsLeft, t.queue.length)
decreasing_by
  rcases hdecreases with hlt | ⟨heq, hlt | ⟨heq', hlt⟩⟩
  · exact Prod.Lex.left _ _ hlt
  · rw [heq]
    exact Prod.Lex.right _ (Prod.Lex.left _ _ hlt)
  · rw [heq, heq']
    exact Prod.Lex.right _ (Prod.Lex.right _ hlt)

end

/-- A session that is started once and not stopped. Whenever nothing is due, the snapshot of each
type is, in the order of keys, what the store listed at a moment since the last successful write
and less than a period ago; if the clock was punctual, at a moment since the last tick, where the
ticks come at whole periods from the start. And the controller needs no time, and no writes, to get
to where nothing is due. -/
theorem snapshots_converge (hcatalog : ∀ s : σ, Store.catalog s = catalog)
    (hlists : ∀ (s : σ) type, type ∈ catalog.types → ∃ l, (Store.list s type).1 = .ok l)
    (store : σ) (resync now : Nat) (hresync : 0 < resync) (before after : List (Move σ))
    (hbefore : .start ∉ before) (hafter : .stop ∉ after) :
    let s := new store resync now
    let start := s.after before
    let moves := before ++ .start :: after
    let t := s.after moves
    (t.Settled → ∀ type ∈ catalog.types, ∃ m ∈ s.moments moves,
      m.written = t.written ∧ t.now < m.now + resync ∧
      (start.Punctual (.start :: after) →
        start.now + (t.now - start.now) / resync * resync ≤ m.now) ∧
      ∃ l, (Store.list m.controller.store type).1 = .ok l ∧
        (Store.list t.controller type).1 = .ok (Fragile.sortByKey l)) ∧
    ∃ n, (t.after (List.replicate n .act)).Settled ∧
      (t.after (List.replicate n .act)).now = t.now ∧
      (t.after (List.replicate n .act)).written = t.written := by
  intro s start moves t
  have hunstarted : start.Unstarted := (unstarted_new store resync now).after hbefore
  have hmoves : moves = (before ++ [.start]) ++ after := List.append_cons before .start after
  have hfirst : s.after (before ++ [.start]) = start.move .start := s.after_concat before .start
  have hruns₀ : Runs (s.moments (before ++ [.start])) catalog (s.after (before ++ [.start])) := by
    rw [hfirst]
    exact hunstarted.runs
  have hruns : Runs (s.moments moves) catalog t := by
    have happend := hruns₀.append hcatalog hlists hafter
    rwa [← hmoves] at happend
  have hperiod : t.controller.resync = resync := s.resync_after moves
  refine ⟨fun hsettled type htype => ?_, ?_⟩
  · obtain ⟨hahead, hrecent⟩ := hruns.recent hsettled
    obtain ⟨m, hm, hwritten, htick, l, hl, hknown⟩ := hrecent type htype
    refine ⟨m, hm, hwritten, ?_, fun hpunctual => ?_, l, hl, congrArg Except.ok hknown⟩
    · rw [hperiod] at htick
      exact Nat.lt_of_lt_of_le hahead htick
    · have hgrid₀ : OnGrid start.now (s.after (before ++ [.start])) := by
        rw [hfirst]
        exact hunstarted.onGrid
      have hpunctual' : (s.after (before ++ [.start])).Punctual after := by
        rw [hfirst]
        exact hpunctual.2
      have hgrid := hgrid₀.append hcatalog hlists hruns₀ hafter hpunctual'
      rw [← hmoves] at hgrid
      rw [← hperiod]
      exact hgrid.last_tick_le hahead htick
  · obtain ⟨n, hn⟩ := hruns.exists_settled hcatalog hlists (s.after_mem_moments moves)
      (hperiod ▸ hresync)
    exact ⟨n, hn, t.acts_stay n⟩

end Session

/-! ### A store in memory -/

/-- The stores in memory that keep a catalog. -/
def MemoryOf (catalog : Catalog) := {m : Memory // m.catalog = catalog}

namespace MemoryOf

variable {catalog : Catalog}

instance : Store (MemoryOf catalog) where
  catalog s := s.1.catalog
  get s := s.1.get
  list s type := (.ok (s.1.list type), s)
  post s content :=
    ((s.1.post content).1, ⟨(s.1.post content).2, (s.1.catalog_post content).trans s.2⟩)
  put s content r :=
    ((s.1.put content r).1, ⟨(s.1.put content r).2, (s.1.catalog_put content r).trans s.2⟩)
  delete s type key :=
    ((s.1.delete type key).1, ⟨(s.1.delete type key).2, (s.1.catalog_delete type key).trans s.2⟩)

def fresh : Session (MemoryOf Memory.noteCatalog) :=
  .new ⟨Memory.new Memory.noteCatalog, rfl⟩ 1000 0

/-- A note is written before the start and replaced between two ticks. -/
def noteMoves : List (Move (MemoryOf Memory.noteCatalog)) :=
  List.replicate 6 .act ++
    .wait 300 :: .call (.put (Memory.noteMessage 2) "1") :: (List.replicate 3 .act ++
      .wait 700 :: (List.replicate 3 .act ++ [.wait 1]))

def posted : Session (MemoryOf Memory.noteCatalog) :=
  fresh.after [.call (.post (Memory.noteMessage 1))]

def noted : Session (MemoryOf Memory.noteCatalog) :=
  fresh.after ([.call (.post (Memory.noteMessage 1))] ++ .start :: noteMoves)

theorem punctual_noteMoves : posted.Punctual (.start :: noteMoves) := by
  refine .cons nofun (.acts 6 (.wait 1000 (Session.settled_of_isNone ?_ ?_) ?_ ?_ ?_))
  any_goals decide +kernel
  refine .cons nofun (.acts 3 (.wait 1000 (Session.settled_of_isNone ?_ ?_) ?_ ?_ ?_))
  any_goals decide +kernel
  refine .acts 3 (.wait 2000 (Session.settled_of_isNone ?_ ?_) ?_ ?_ trivial)
  all_goals decide +kernel

theorem snapshots_converge_of_noted :
    noted.now = 1001 ∧ noted.written = 2 ∧
      ∃ m ∈ fresh.moments ([.call (.post (Memory.noteMessage 1))] ++ .start :: noteMoves),
        m.written = 2 ∧ 1000 ≤ m.now ∧ ∃ l, (Store.list m.controller.store "note").1 = .ok l ∧
          (Store.list noted.controller "note").1 = .ok (Fragile.sortByKey l) := by
  have hstart : posted.now = 0 := by decide +kernel
  have hnow : noted.now = 1001 := by decide +kernel
  have hwritten : noted.written = 2 := by decide +kernel
  have hsettled : noted.Settled :=
    Session.settled_of_isNone (by decide +kernel) (by decide +kernel)
  have hconverge := Session.snapshots_converge
    (fun s : MemoryOf Memory.noteCatalog => s.2) (fun s type _ => ⟨s.1.list type, rfl⟩)
    ⟨Memory.new Memory.noteCatalog, rfl⟩ 1000 0 (by decide)
    [.call (.post (Memory.noteMessage 1))] noteMoves (by simp) (by simp [noteMoves])
  obtain ⟨m, hm, hlast, -, htick, hlisted⟩ := hconverge.1 hsettled "note" (by decide)
  have hgrid := htick punctual_noteMoves
  rw [posted, fresh] at hstart
  rw [noted, fresh] at hnow
  simp only [hstart, hnow] at hgrid
  exact ⟨hnow, hwritten, m, hm, hlast.trans hwritten, hgrid, hlisted⟩

end MemoryOf

end MeshControl.Config
