import MeshControl.Proofs.Config.Session

/-!
What passes leave in a snapshot. A pass lists every type after it has begun, and it begins after the
write that asked for it and at the tick that was due; a write while it is under way asks for
another.
-/
namespace MeshControl.Config

namespace Session

variable {σ : Type} [Store σ] {catalog : Catalog} {past : List (Session σ)} {t : Session σ}
  {type : String}

/-- A snapshot is, in the order of keys, what the store listed at some past moment that is not
earlier than a point of time, nor than a number of writes. -/
def Seen (past : List (Session σ)) (begun written : Nat) (type : String) (snapshot : List Record) :
    Prop :=
  ∃ m ∈ past, begun ≤ m.now ∧ written ≤ m.written ∧
    ∃ l, (Store.list m.controller.store type).1 = .ok l ∧ snapshot = Fragile.sortByKey l

theorem Seen.mono {begun written : Nat} {snapshot : List Record}
    (h : Seen past begun written type snapshot) {more : List (Session σ)} (hmore : past ⊆ more) :
    Seen more begun written type snapshot := by
  obtain ⟨m, hm, hrest⟩ := h
  exact ⟨m, hmore hm, hrest⟩

/-- The last pass that has begun: there is a time and a number of writes since which it lists, and
the types that it has still to list. A write after that has asked for another pass. -/
def Since (past : List (Session σ)) (catalog : Catalog) (t : Session σ) (tick : Nat)
    (rest : List String) : Prop :=
  ∃ begun ≤ t.now, ∃ written ≤ t.written,
    tick ≤ begun + t.controller.resync ∧ (t.controller.relist = true ∨ written = t.written) ∧
    ∀ type ∈ catalog.types, type ∉ rest → Seen past begun written type (t.controller.known type)

/-- Where a controller stands that runs and whose lists never fail. -/
inductive Stage (past : List (Session σ)) (catalog : Catalog) (t : Session σ) : Prop
  | started (tick : Nat) (hphase : t.controller.phase = .waiting tick) (hdue : tick ≤ t.now)
  | waiting (tick : Nat) (hphase : t.controller.phase = .waiting tick)
      (hsince : Since past catalog t tick [])
  | listing (pass : Pass) (hphase : t.controller.phase = .listing pass)
      (hrest : ∀ type ∈ pass.rest, type ∈ catalog.types)
      (hsince : Since past catalog t pass.tick pass.rest)

/-- The session after a move that leaves the passes alone. A write is no such move unless it asks
for a pass. -/
structure Follows (t t' : Session σ) : Prop where
  now : t.now ≤ t'.now
  written : t.written ≤ t'.written
  phase : t'.controller.phase = t.controller.phase
  resync : t'.controller.resync = t.controller.resync
  snapshot : t'.controller.snapshot = t.controller.snapshot
  asked : t'.controller.relist = true ∨
    t'.controller.relist = t.controller.relist ∧ t'.written = t.written

theorem Since.follow {t' : Session σ} {tick : Nat} {rest : List String}
    (h : Since past catalog t tick rest) (hfollows : t.Follows t') :
    Since past catalog t' tick rest := by
  obtain ⟨begun, hbegun, written, hwritten, htick, hasked, hseen⟩ := h
  refine ⟨begun, Nat.le_trans hbegun hfollows.now, written,
    Nat.le_trans hwritten hfollows.written, hfollows.resync ▸ htick, ?_, ?_⟩
  · rcases hfollows.asked with hrelist | ⟨hrelist, hsame⟩
    · exact .inl hrelist
    · rw [hrelist, hsame]
      exact hasked
  · intro type htype hrest
    rw [Controller.known, hfollows.snapshot]
    exact hseen type htype hrest

theorem Stage.follow {t' : Session σ} (h : Stage past catalog t) (hfollows : t.Follows t') :
    Stage past catalog t' := by
  cases h with
  | started tick hphase hdue =>
    exact .started tick (hfollows.phase.trans hphase) (Nat.le_trans hdue hfollows.now)
  | waiting tick hphase hsince =>
    exact .waiting tick (hfollows.phase.trans hphase) (hsince.follow hfollows)
  | listing pass hphase hrest hsince =>
    exact .listing pass (hfollows.phase.trans hphase) hrest (hsince.follow hfollows)

theorem Since.mono {tick : Nat} {rest : List String} (h : Since past catalog t tick rest)
    {more : List (Session σ)} (hmore : past ⊆ more) : Since more catalog t tick rest := by
  obtain ⟨begun, hbegun, written, hwritten, htick, hasked, hseen⟩ := h
  exact ⟨begun, hbegun, written, hwritten, htick, hasked,
    fun type htype hrest => (hseen type htype hrest).mono hmore⟩

theorem Stage.mono (h : Stage past catalog t) {more : List (Session σ)} (hmore : past ⊆ more) :
    Stage more catalog t := by
  cases h with
  | started tick hphase hdue => exact .started tick hphase hdue
  | waiting tick hphase hsince => exact .waiting tick hphase (hsince.mono hmore)
  | listing pass hphase hrest hsince => exact .listing pass hphase hrest (hsince.mono hmore)

/-! ### Turns -/

/-- A pass that begins now has everything before it. -/
theorem stage_beginPass (hcatalog : ∀ s : σ, Store.catalog s = catalog) {c : Controller σ}
    {tick : Nat} (htick : tick ≤ t.now + c.resync)
    (queue : List Notice) :
    Stage past catalog { t with controller := c.beginPass tick, queue } := by
  refine .listing ⟨tick, (Store.catalog c.store).types, 0, true⟩ rfl ?_ ?_
  · intro type htype
    rwa [hcatalog] at htype
  · refine ⟨t.now, Nat.le_refl _, t.written, Nat.le_refl _, htick, .inr rfl, ?_⟩
    intro type htype hrest
    rw [hcatalog] at hrest
    exact absurd htype hrest

/-- A type that has been listed is as recent as the pass; the others stay as they are. -/
theorem Since.list {pass : Pass} {rest : List String} {records : List Record}
    (h : Since past catalog t pass.tick pass.rest) (hpast : t ∈ past)
    (hrest : pass.rest = type :: rest)
    (hok : (Store.list t.controller.store type).1 = .ok records) {t' : Session σ}
    (hnow : t'.now = t.now) (hwritten : t'.written = t.written)
    (hresync : t'.controller.resync = t.controller.resync)
    (hrelist : t'.controller.relist = t.controller.relist)
    (hsnapshot : t'.controller.snapshot =
      t.controller.snapshot.insert type (Fragile.sortByKey records)) :
    Since past catalog t' pass.tick rest := by
  obtain ⟨begun, hbegun, written, hwrote, htick, hasked, hseen⟩ := h
  refine ⟨begun, hnow ▸ hbegun, written, hwritten ▸ hwrote, hresync ▸ htick, ?_, ?_⟩
  · rw [hrelist, hwritten]
    exact hasked
  · intro other hother hnot
    rw [Controller.known, hsnapshot, Table.find?_insert]
    split
    · next hsame =>
      subst hsame
      exact ⟨t, hpast, hbegun, hwrote, records, hok, rfl⟩
    · next hne =>
      refine hseen other hother fun hmem => ?_
      rw [hrest] at hmem
      rcases List.mem_cons.mp hmem with heq | hmem
      · exact hne heq
      · exact hnot hmem

theorem Stage.tick_le (h : Stage past catalog t) {tick : Nat}
    (hphase : t.controller.phase = .waiting tick) : tick ≤ t.now + t.controller.resync := by
  cases h with
  | started tick' hphase' hdue =>
    have heq : tick' = tick := Phase.waiting.inj (hphase'.symm.trans hphase)
    omega
  | waiting tick' hphase' hsince =>
    have heq : tick' = tick := Phase.waiting.inj (hphase'.symm.trans hphase)
    obtain ⟨begun, hbegun, _, _, htick, -⟩ := hsince
    omega
  | listing pass hphase' => cases hphase'.symm.trans hphase

theorem Stage.of_listing (h : Stage past catalog t) {pass : Pass}
    (hphase : t.controller.phase = .listing pass) :
    (∀ type ∈ pass.rest, type ∈ catalog.types) ∧ Since past catalog t pass.tick pass.rest := by
  cases h with
  | started tick hphase' | waiting tick hphase' => cases hphase'.symm.trans hphase
  | listing pass' hphase' hrest hsince =>
    cases Phase.listing.inj (hphase'.symm.trans hphase)
    exact ⟨hrest, hsince⟩

theorem Stage.ne_idle (h : Stage past catalog t) : t.controller.phase ≠ .idle := by
  intro hidle
  cases h with
  | started tick hphase | waiting tick hphase | listing pass hphase =>
    cases hphase.symm.trans hidle

theorem Stage.ne_resting (h : Stage past catalog t) (wake : Nat) (pass : Pass) :
    t.controller.phase ≠ .resting wake pass := by
  intro hresting
  cases h with
  | started tick hphase | waiting tick hphase | listing pass' hphase =>
    cases hphase.symm.trans hresting

theorem Stage.list_ne_error (h : Stage past catalog t)
    (hlists : ∀ (s : σ) type, type ∈ catalog.types → ∃ l, (Store.list s type).1 = .ok l)
    {pass : Pass} {rest : List String} {e : StoreError}
    (hphase : t.controller.phase = .listing pass) (hrest : pass.rest = type :: rest) :
    (Store.list t.controller.store type).1 ≠ .error e := by
  intro herror
  have htype := (h.of_listing hphase).1 type (hrest ▸ List.mem_cons_self)
  obtain ⟨l, hl⟩ := hlists t.controller.store type htype
  cases hl.symm.trans herror

/-! ### Moves -/

/-- A session whose controller runs and is not told to stop. -/
structure Runs (past : List (Session σ)) (catalog : Catalog) (t : Session σ) : Prop where
  stopping : t.stopping = false
  stage : Stage past catalog t

theorem Runs.mono (h : Runs past catalog t) {more : List (Session σ)} (hmore : past ⊆ more) :
    Runs more catalog t := ⟨h.stopping, h.stage.mono hmore⟩

theorem Unstarted.runs (h : t.Unstarted) : Runs past catalog (t.move .start) := by
  rw [Session.move, Controller.start_of_idle h.phase]
  exact ⟨h.stopping, .started t.now rfl (Nat.le_refl _)⟩

theorem follows_call (t : Session σ) (call : Call) : t.Follows (t.move (.call call)) := by
  obtain ⟨store, hcall⟩ := t.controller.perform_eq call
  have hcontroller : (t.move (.call call)).controller = _ := hcall
  refine ⟨Nat.le_refl _, Nat.le_add_right _ _, ?_, ?_, ?_, ?_⟩
  all_goals rw [hcontroller]
  change (t.controller.relist || (call.perform t.controller).1.succeeded) = true ∨
    (t.controller.relist || (call.perform t.controller).1.succeeded) = t.controller.relist ∧
      t.written + (call.perform t.controller).1.succeeded.toNat = t.written
  cases (call.perform t.controller).1.succeeded with
  | true => exact .inl (Bool.or_true _)
  | false => exact .inr ⟨Bool.or_false _, rfl⟩

section

variable (hcatalog : ∀ s : σ, Store.catalog s = catalog)
  (hlists : ∀ (s : σ) type, type ∈ catalog.types → ∃ l, (Store.list s type).1 = .ok l)

include hcatalog hlists

/-- The store answers every list, so a pass never rests and leaves nothing out. -/
theorem Stage.turn (h : Stage past catalog t) (hpast : t ∈ past) {c : Controller σ}
    {queue : List Notice} (hturn : Controller.Turn t.now t.controller c queue) :
    Stage past catalog { t with controller := c, queue } := by
  cases hturn with
  | relisted tick hphase hrelist =>
    exact stage_beginPass (c := { t.controller with relist := false }) hcatalog
      (h.tick_le hphase) _
  | ticked tick hphase hrelist hdue =>
    exact stage_beginPass hcatalog (Controller.tick_le_nextTick hdue) _
  | listed pass type rest records hphase hrest hok =>
    obtain ⟨hknown, hsince⟩ := h.of_listing hphase
    refine .listing ⟨pass.tick, rest, 0, pass.complete⟩ rfl ?_
      (hsince.list hpast hrest hok rfl rfl rfl rfl rfl)
    intro other hother
    exact hknown other (hrest ▸ List.mem_cons_of_mem type hother)
  | rested pass type rest _ hphase hrest herror | skipped pass type rest _ hphase hrest herror =>
    exact absurd herror (h.list_ne_error hlists hphase hrest)
  | finished pass hphase hrest =>
    obtain ⟨-, hsince⟩ := h.of_listing hphase
    rw [hrest] at hsince
    exact .waiting pass.tick rfl hsince
  | woke wake pass hphase => exact absurd hphase (h.ne_resting wake pass)

theorem Runs.acted (h : Runs past catalog t) (hpast : t ∈ past) {t' : Session σ}
    (hacted : t.Acted t') : Runs past catalog t' := by
  cases hacted with
  | delivered =>
    exact ⟨h.stopping, h.stage.follow ⟨Nat.le_refl _, Nat.le_refl _, rfl, rfl, rfl,
      .inr ⟨rfl, rfl⟩⟩⟩
  | stopped _ hstop => cases h.stopping.symm.trans hstop
  | nothing => exact h
  | turned c notices hqueue hturn =>
    exact ⟨h.stopping, h.stage.turn hcatalog hlists hpast hturn⟩

theorem Runs.move (h : Runs past catalog t) (hpast : t ∈ past) {m : Move σ} (hm : m ≠ .stop) :
    Runs past catalog (t.move m) := by
  cases m with
  | stop => exact absurd rfl hm
  | act => exact h.acted hcatalog hlists hpast t.acted
  | call call => exact ⟨h.stopping, h.stage.follow (t.follows_call call)⟩
  | start =>
    rw [Session.move, Controller.start_of_running h.stage.ne_idle]
    exact h
  | wait time =>
    exact ⟨h.stopping, h.stage.follow ⟨Nat.le_add_right _ _, Nat.le_refl _, rfl, rfl, rfl,
      .inr ⟨rfl, rfl⟩⟩⟩
  | register | change =>
    exact ⟨h.stopping, h.stage.follow ⟨Nat.le_refl _, Nat.le_refl _, rfl, rfl, rfl,
      .inr ⟨rfl, rfl⟩⟩⟩

/-- Along a session that is not told to stop, each type has been listed as its last pass says. -/
theorem Runs.append {s : Session σ} {moves : List (Move σ)}
    (h : Runs (s.moments moves) catalog (s.after moves)) {more : List (Move σ)}
    (hmore : .stop ∉ more) :
    Runs (s.moments (moves ++ more)) catalog (s.after (moves ++ more)) := by
  induction more generalizing moves with
  | nil =>
    rw [List.append_nil]
    exact h
  | cons m more ih =>
    have hm : m ≠ .stop := fun heq => hmore (heq ▸ List.mem_cons_self)
    have hnext : Runs (s.moments (moves ++ [m])) catalog (s.after (moves ++ [m])) := by
      rw [moments_concat, after_concat]
      exact (h.move hcatalog hlists (s.after_mem_moments moves) hm).mono
        (List.subset_append_left _ _)
    rw [List.append_cons]
    exact ih hnext fun hmem => hmore (List.mem_cons_of_mem m hmem)

end

end Session

end MeshControl.Config
