import MeshControl.Proofs.Config.Listings

/-!
What one pass does. It lists every type of the catalog in its order, whatever became of the types
before; the snapshot and the handlers learn of those listings only that came back with records; and
the controller counts as synced after it if it did before or all came back.
-/
namespace MeshControl.Config

namespace Session

variable {σ : Type} {t u v : Session σ}

/-! ### What has come of listings -/

/-- Since a pass began some listings have reached the snapshot, and nothing else has. What was told
or is still to be told concerns handlers of the types that came back. -/
structure Reached (t : Session σ) (done : List Listing) (u : Session σ) : Prop where
  snapshot : u.controller.snapshot = done.foldl Listing.enter t.controller.snapshot
  told : ∃ told, u.delivered = t.delivered ++ told ∧ ∀ n ∈ told ++ u.queue,
    ∃ l ∈ done, ¬ l.Fails ∧ n.handler ∈ u.controller.handlersOf l.type

theorem Reached.aside {done : List Listing} (h : Reached t done u) (haside : u.Aside v) :
    Reached t done v where
  snapshot := haside.snapshot.trans h.snapshot
  told := by
    obtain ⟨told, hdelivered, hconcern⟩ := h.told
    obtain ⟨more, hmore, hqueue⟩ := haside.told
    refine ⟨told ++ more, by rw [hmore, hdelivered, List.append_assoc], fun n hn => ?_⟩
    rw [List.append_assoc, hqueue] at hn
    obtain ⟨l, hl, hfine, hhandler⟩ := hconcern n hn
    exact ⟨l, hl, hfine, haside.handlers l.type hhandler⟩

theorem Reached.fail {done : List Listing} (h : Reached t done u) {l : Listing} (hl : l.Fails) :
    Reached t (done ++ [l]) u where
  snapshot := by
    obtain ⟨e, he⟩ := Listing.fails_iff.mp hl
    rw [List.foldl_append, ← h.snapshot, List.foldl_cons, List.foldl_nil, Listing.enter, he]
  told := by
    obtain ⟨told, hdelivered, hconcern⟩ := h.told
    refine ⟨told, hdelivered, fun n hn => ?_⟩
    obtain ⟨k, hk, hrest⟩ := hconcern n hn
    exact ⟨k, List.mem_append_left _ hk, hrest⟩

theorem Reached.list {done : List Listing} (h : Reached t done u) (hqueue : u.queue = [])
    {l : Listing} {records : List Record} (hl : l.last = .ok records)
    (hdelivered : v.delivered = u.delivered)
    (hhandlers : v.controller.handlers = u.controller.handlers)
    (hsnapshot : v.controller.snapshot =
      u.controller.snapshot.insert l.type (Fragile.sortByKey records))
    (now : Nat) (events : List (Record × Event))
    (hnotices : v.queue = u.controller.notices l.type now events) :
    Reached t (done ++ [l]) v where
  snapshot := by
    rw [List.foldl_append, ← h.snapshot, List.foldl_cons, List.foldl_nil, Listing.enter, hl,
      hsnapshot]
  told := by
    obtain ⟨told, htold, hconcern⟩ := h.told
    rw [hqueue, List.append_nil] at hconcern
    have hsame : ∀ type, v.controller.handlersOf type = u.controller.handlersOf type := by
      intro type
      rw [Controller.handlersOf, hhandlers, Controller.handlersOf]
    refine ⟨told, hdelivered.trans htold, fun n hn => ?_⟩
    rcases List.mem_append.mp hn with hn | hn
    · obtain ⟨k, hk, hfine, hhandler⟩ := hconcern n hn
      exact ⟨k, List.mem_append_left _ hk, hfine, (hsame k.type).symm ▸ hhandler⟩
    · refine ⟨l, List.mem_append_right _ (List.mem_singleton.mpr rfl),
        Listing.not_fails_iff.mpr ⟨records, hl⟩, ?_⟩
      rw [hnotices, Controller.notices] at hn
      obtain ⟨e, -, hn⟩ := List.mem_flatMap.mp hn
      obtain ⟨g, hg, rfl⟩ := List.mem_map.mp hn
      rw [hsame]
      exact hg

variable [Store σ]

/-! ### Passes -/

/-- The moves of a pass: the acts that begin and end it, and what is done during it. -/
def passing (during : List (Move σ)) : List (Move σ) := .act :: during ++ [.act]

/-- A pass begins with the next act, lasts during some moves, and ends with the act after them. -/
structure IsPass (t : Session σ) (during : List (Move σ)) : Prop where
  begins : t.pass? = none
  lasts : ∀ m ∈ (t.move .act).moments during, m.pass? ≠ none
  ends : (t.after (passing during)).pass? = none

theorem isPass_of_all {during : List (Move σ)} (hbegins : t.pass?.isNone = true)
    (hlasts : ((t.move .act).moments during).all (·.pass?.isSome) = true)
    (hends : (t.after (passing during)).pass?.isNone = true) : t.IsPass during where
  begins := Option.isNone_iff_eq_none.mp hbegins
  lasts m hm := Option.isSome_iff_ne_none.mp (List.all_eq_true.mp hlasts m hm)
  ends := Option.isNone_iff_eq_none.mp hends

/-- The types of the catalog were listed so in a pass, one after another. -/
structure Lists (t : Session σ) (during : List (Move σ)) (listings : List Listing) : Prop where
  types : listings.map (·.type) = (Store.catalog t.controller.store).types
  heard : listings.flatMap Listing.replies = t.replies (passing during)

theorem Lists.unique {during : List (Move σ)} {ls ks : List Listing} (h : t.Lists during ls)
    (h' : t.Lists during ks) : ls = ks := by
  have htypes := congrArg List.length (h.types.trans h'.types.symm)
  rw [List.length_map, List.length_map] at htypes
  exact Listing.flatMap_replies_inj htypes (h.heard.trans h'.heard.symm)

/-! ### While a pass is under way -/

/-- What was heard so far of the type that is being listed. -/
def pending (rest : List String) (reasons : List String) : List (String × Reply) :=
  match rest with
  | [] => []
  | type :: _ => reasons.map fun reason => (type, .error (.unavailable reason))

/-- How far a pass has come along some moves: the types that are done, and how often the store was
unavailable for the next one. -/
structure Progress (t : Session σ) (moves : List (Move σ)) (pass : Pass) (done : List Listing)
    (reasons : List String) : Prop where
  under : (t.after moves).pass? = some pass
  types : done.map (·.type) ++ pass.rest = (Store.catalog t.controller.store).types
  patient : reasons.length < Controller.attempts
  failures : pass.failures = reasons.length
  complete : pass.complete = true ↔ ∀ l ∈ done, ¬ l.Fails
  heard : t.replies moves = done.flatMap Listing.replies ++ pending pass.rest reasons
  synced : (t.after moves).controller.synced = t.controller.synced
  reached : Reached t done (t.after moves)
  before : ∀ m ∈ t.moments moves, ∃ front, front <+: done ∧ Reached t front m

/-- What holds when a pass has ended that listed the types so. -/
structure Ended (t : Session σ) (moves : List (Move σ)) (listings : List Listing) : Prop where
  types : listings.map (·.type) = (Store.catalog t.controller.store).types
  heard : listings.flatMap Listing.replies = t.replies moves
  settled : (t.after moves).queue = []
  synced : (t.after moves).controller.synced = true ↔
    t.controller.synced = true ∨ ∀ l ∈ listings, ¬ l.Fails
  reached : Reached t listings (t.after moves)
  before : ∀ m ∈ t.moments moves, ∃ front, front <+: listings ∧ Reached t front m

/-- One more moment of a pass, where as much or more has been listed. -/
theorem reached_moments_concat {moves : List (Move σ)} {m : Move σ} {done done' : List Listing}
    (hbefore : ∀ k ∈ t.moments moves, ∃ front, front <+: done ∧ Reached t front k)
    (hmore : done <+: done') (hreached : Reached t done' (t.after (moves ++ [m]))) :
    ∀ k ∈ t.moments (moves ++ [m]), ∃ front, front <+: done' ∧ Reached t front k := by
  intro k hk
  rw [moments_concat] at hk
  rcases List.mem_append.mp hk with hk | hk
  · obtain ⟨front, hfront, hreach⟩ := hbefore k hk
    exact ⟨front, hfront.trans hmore, hreach⟩
  · rw [List.mem_singleton.mp hk]
    exact ⟨done', List.prefix_rfl, hreached⟩

variable {moves : List (Move σ)} {m : Move σ} {pass : Pass} {done : List Listing}
  {reasons : List String}

theorem Progress.phase_eq (h : t.Progress moves pass done reasons) {pass' : Pass}
    (hphase : (t.after moves).controller.phase = .listing pass') : pass' = pass :=
  Option.some.inj ((pass?_of_listing hphase).symm.trans h.under)

/-- A type is done. -/
theorem Progress.add (h : t.Progress moves pass done reasons) (l : Listing)
    (hreasons : l.reasons = reasons) {rest : List String} (hrest : pass.rest = l.type :: rest)
    (hheard : (t.after moves).heard m = [(l.type, l.last)]) (hafter : t.after (moves ++ [m]) = v)
    (complete : Bool) (hcomplete : complete = true ↔ pass.complete = true ∧ ¬ l.Fails)
    (hphase : v.controller.phase = .listing ⟨pass.tick, rest, 0, complete⟩)
    (hsynced : v.controller.synced = (t.after moves).controller.synced)
    (hreached : Reached t (done ++ [l]) v) :
    t.Progress (moves ++ [m]) ⟨pass.tick, rest, 0, complete⟩ (done ++ [l]) [] := by
  subst hafter
  have hheard' : t.replies (moves ++ [m]) =
      (done ++ [l]).flatMap Listing.replies ++ pending rest [] := by
    have hnone : pending rest [] = [] := by
      cases rest <;> rfl
    rw [replies_concat, h.heard, hheard, hrest, hnone, List.append_nil, List.append_assoc,
      List.flatMap_append, List.flatMap_singleton, Listing.replies, hreasons]
    rfl
  refine ⟨pass?_of_listing hphase, ?_, Nat.succ_pos _, rfl, ?_, hheard', hsynced.trans h.synced,
    hreached, reached_moments_concat h.before (List.prefix_append _ _) hreached⟩
  · rw [← h.types, hrest, List.map_append, List.append_assoc]
    rfl
  · rw [hcomplete, h.complete, List.forall_mem_append, List.forall_mem_singleton]

/-- Nothing is heard in a move. -/
theorem Progress.quiet (h : t.Progress moves pass done reasons)
    (hheard : (t.after moves).heard m = []) (hafter : t.after (moves ++ [m]) = v)
    (hunder : v.pass? = some pass)
    (hsynced : v.controller.synced = (t.after moves).controller.synced)
    (haside : (t.after moves).Aside v) : t.Progress (moves ++ [m]) pass done reasons := by
  subst hafter
  refine ⟨hunder, h.types, h.patient, h.failures, h.complete, ?_, hsynced.trans h.synced,
    h.reached.aside haside,
    reached_moments_concat h.before List.prefix_rfl (h.reached.aside haside)⟩
  rw [replies_concat, hheard, List.append_nil, h.heard]

/-- The store is unavailable once more, and is to be asked again. -/
theorem Progress.rest (h : t.Progress moves pass done reasons) {type : String}
    {rest : List String} {reason : String} (hrest : pass.rest = type :: rest)
    (hmore : pass.failures + 1 < Controller.attempts)
    (hheard : (t.after moves).heard m = [(type, .error (.unavailable reason))])
    (hafter : t.after (moves ++ [m]) = v)
    (hunder : v.pass? = some { pass with failures := pass.failures + 1 })
    (hsynced : v.controller.synced = (t.after moves).controller.synced)
    (haside : (t.after moves).Aside v) :
    t.Progress (moves ++ [m]) { pass with failures := pass.failures + 1 } done
      (reasons ++ [reason]) := by
  subst hafter
  have hfailures : pass.failures + 1 = (reasons ++ [reason]).length := by
    rw [List.length_append, ← h.failures, List.length_singleton]
  refine ⟨hunder, h.types, hfailures ▸ hmore, hfailures, h.complete, ?_,
    hsynced.trans h.synced, h.reached.aside haside,
    reached_moments_concat h.before List.prefix_rfl (h.reached.aside haside)⟩
  rw [replies_concat, hheard, h.heard, hrest, pending, pending, List.map_append,
    List.append_assoc]
  rfl

/-- No type is left. -/
theorem Progress.finish (h : t.Progress moves pass done reasons) (hrest : pass.rest = [])
    (hheard : (t.after moves).heard m = []) (hafter : t.after (moves ++ [m]) = v)
    (hqueue : v.queue = [])
    (hsynced : v.controller.synced = ((t.after moves).controller.synced || pass.complete))
    (haside : (t.after moves).Aside v) : t.Ended (moves ++ [m]) done := by
  subst hafter
  refine ⟨?_, ?_, hqueue, ?_, h.reached.aside haside,
    reached_moments_concat h.before List.prefix_rfl (h.reached.aside haside)⟩
  · rw [← h.types, hrest, List.append_nil]
  · rw [replies_concat, h.heard, hheard, hrest, pending, List.append_nil, List.append_nil]
  · rw [hsynced, Bool.or_eq_true, h.synced, h.complete]

/-- A move leads on in a pass, or it ends the pass. -/
theorem Progress.move (h : t.Progress moves pass done reasons) (m : Move σ) :
    (∃ pass' done' reasons', t.Progress (moves ++ [m]) pass' done' reasons') ∨
      (t.after (moves ++ [m])).pass? = none ∧ t.Ended (moves ++ [m]) done := by
  have hmoved := (t.after moves).moved m
  rw [← after_concat] at hmoved
  have hunder : (t.after moves).pass? ≠ none := h.under ▸ Option.some_ne_none pass
  generalize hheard : (t.after moves).heard m = heard at hmoved
  generalize hafter : t.after (moves ++ [m]) = next at hmoved ⊢
  cases hmoved with
  | aside _ _ haside hsynced hphase =>
    have hsame : next.pass? = some pass := by rw [← h.under, pass?, pass?, hphase]
    exact .inl ⟨_, _, _, h.quiet hheard hafter hsame hsynced haside⟩
  | outside _ _ _ _ hpass | begun _ _ _ hpass => exact absurd hpass hunder
  | listed pass' type rest records hqueue hphase hrest hok =>
    cases h.phase_eq hphase
    let l : Listing := ⟨type, reasons, .ok records, h.patient, fun _ hlast => by cases hlast⟩
    have hfine : ¬ l.Fails := Listing.not_fails_iff.mpr ⟨records, rfl⟩
    exact .inl ⟨_, _, _, h.add l rfl hrest hheard hafter pass.complete
      ⟨fun hc => ⟨hc, hfine⟩, And.left⟩ rfl rfl (h.reached.list hqueue rfl rfl rfl rfl _ _ rfl)⟩
  | rested pass' type rest reason hqueue hphase hrest hmore =>
    cases h.phase_eq hphase
    exact .inl ⟨_, _, _, h.rest hrest hmore hheard hafter (pass?_of_resting rfl) rfl
      (.of_same rfl rfl hqueue.symm rfl)⟩
  | skipped pass' type rest e hqueue hphase hrest hlast =>
    cases h.phase_eq hphase
    have hfinal : ∀ reason, (.error e : Reply) = .error (.unavailable reason) →
        reasons.length + 1 = Controller.attempts := by
      intro reason heq
      have hfull := hlast reason (Except.error.inj heq)
      have hpatient := h.patient
      rw [h.failures] at hfull
      omega
    let l : Listing := ⟨type, reasons, .error e, h.patient, hfinal⟩
    have hfails : l.Fails := Listing.fails_iff.mpr ⟨e, rfl⟩
    have hcomplete : false = true ↔ pass.complete = true ∧ ¬ l.Fails :=
      ⟨fun hfalse => absurd hfalse Bool.false_ne_true, fun hboth => absurd hfails hboth.2⟩
    refine .inl ⟨_, _, _, h.add l rfl hrest hheard hafter false hcomplete rfl rfl ?_⟩
    apply Reached.fail _ hfails
    exact h.reached.aside (.of_same rfl rfl hqueue.symm rfl)
  | woke wake pass' hqueue hphase hdue =>
    have hpass : pass' = pass := Option.some.inj ((pass?_of_resting hphase).symm.trans h.under)
    exact .inl ⟨_, _, _, h.quiet hheard hafter (hpass ▸ pass?_of_listing rfl) rfl
      (.of_same rfl rfl hqueue.symm rfl)⟩
  | finished pass' hqueue hphase hrest =>
    cases h.phase_eq hphase
    exact .inr ⟨rfl, h.finish hrest hheard hafter rfl rfl (.of_same rfl rfl hqueue.symm rfl)⟩

theorem Progress.append (h : t.Progress moves pass done reasons) {more : List (Move σ)}
    (hlasts : ∀ m ∈ (t.after moves).moments more, m.pass? ≠ none) :
    ∃ pass' done' reasons', t.Progress (moves ++ more) pass' done' reasons' := by
  induction more generalizing moves pass done reasons with
  | nil => exact ⟨pass, done, reasons, by rwa [List.append_nil]⟩
  | cons m more ih =>
    have hlasts' : ∀ k ∈ (t.after (moves ++ [m])).moments more, k.pass? ≠ none := by
      rw [after_concat]
      exact fun k hk => hlasts k (List.mem_cons_of_mem _ hk)
    rcases h.move m with ⟨pass', done', reasons', hnext⟩ | ⟨hnone, -⟩
    · rw [List.append_cons]
      exact ih hnext hlasts'
    · exact absurd hnone (hlasts' _ (mem_moments_self _ more))

/-- An act that begins a pass leaves everything to list. -/
theorem progress_begin (hbegins : t.pass? = none) (hunder : (t.move .act).pass? ≠ none) :
    ∃ pass, t.Progress [.act] pass [] [] := by
  have hmoved := t.moved .act
  have hafter : t.after [.act] = t.move .act := rfl
  have hreplies : t.replies [.act] = t.heard .act := List.append_nil _
  generalize hheard : t.heard .act = heard at hmoved
  generalize hnext : t.move .act = next at hmoved
  have hlost : ∀ {pass : Pass}, t.controller.phase = .listing pass → False := fun hphase => by
    rw [pass?_of_listing hphase] at hbegins
    cases hbegins
  cases hmoved with
  | aside _ _ _ _ hphase =>
    rw [hnext, pass?, hphase, ← pass?] at hunder
    exact absurd hbegins hunder
  | outside _ _ _ _ _ hpass' => exact absurd (hnext ▸ hpass') hunder
  | begun relist tick hqueue =>
    refine ⟨⟨tick, (Store.catalog t.controller.store).types, 0, true⟩, ?_⟩
    have hreached : Reached t [] (t.after [.act]) := by
      rw [hafter, hnext]
      refine ⟨rfl, [], (List.append_nil _).symm, fun n hn => absurd hn List.not_mem_nil⟩
    refine ⟨?_, rfl, Nat.succ_pos _, rfl, by simp, ?_, ?_, hreached, ?_⟩
    · rw [hafter, hnext]
      exact pass?_of_listing rfl
    · rw [hreplies, hheard, List.flatMap_nil, List.nil_append]
      cases (Store.catalog t.controller.store).types <;> rfl
    · rw [hafter, hnext]
    · intro m hm
      refine ⟨[], List.prefix_rfl, ?_⟩
      rcases List.mem_cons.mp hm with rfl | hm
      · refine ⟨rfl, [], (List.append_nil _).symm, fun n hn => ?_⟩
        rw [hqueue] at hn
        exact absurd hn List.not_mem_nil
      · rw [List.mem_singleton.mp hm]
        exact hreached
  | listed _ _ _ _ _ hphase | rested _ _ _ _ _ hphase | skipped _ _ _ _ _ hphase
  | finished _ _ hphase => exact (hlost hphase).elim
  | woke wake pass _ hphase =>
    rw [pass?_of_resting hphase] at hbegins
    cases hbegins

/-- What is heard in a pass shows how each type of the catalog was listed. -/
theorem IsPass.exists_ended {during : List (Move σ)} (h : t.IsPass during) :
    ∃ listings, t.Ended (passing during) listings := by
  have hfirst : (t.move .act).pass? ≠ none := h.lasts _ (mem_moments_self _ during)
  obtain ⟨pass, hbegun⟩ := progress_begin h.begins hfirst
  obtain ⟨pass', done, reasons, hlate⟩ := hbegun.append h.lasts
  rcases hlate.move .act with ⟨last, done', reasons', hlast⟩ | ⟨-, hended⟩
  · exact absurd h.ends (by rw [passing]; exact hlast.under ▸ Option.some_ne_none last)
  · exact ⟨done, hended⟩

end Session

end MeshControl.Config
