import Mathlib.Data.List.Induction
import MeshControl.Proofs.Config.Coverage
import MeshControl.Proofs.Config.Revisions

/-!
What failing lists do to a controller. A type that cannot be listed in a pass stays as it was, and
its handlers are told nothing, while the pass goes on to the other types. The controller counts as
synced from the end of the first pass in which every type was listed, and never ceases to; by then
each type has been filled from the store.
-/
namespace MeshControl.Config

namespace Session

variable {σ : Type} {t u : Session σ}

/-! ### What a type's readers notice -/

/-- The snapshot of a type is what it was, and none of its handlers was told anything since. -/
def Untouched (t u : Session σ) (type : String) : Prop :=
  u.controller.snapshot.find? type = t.controller.snapshot.find? type ∧
    ∀ g ∈ u.controller.handlersOf type, u.eventsTo g = t.eventsTo g

/-- The snapshot of a type is, in the order of keys, what one of the replies listed. -/
def FilledFrom (u : Session σ) (replies : List (String × Reply)) (type : String) : Prop :=
  ∃ records, (type, .ok records) ∈ replies ∧
    u.controller.snapshot.find? type = some (Fragile.sortByKey records)

theorem FilledFrom.mono {replies more : List (String × Reply)} {type : String}
    (h : u.FilledFrom replies type) (hmore : replies ⊆ more) : u.FilledFrom more type := by
  obtain ⟨records, hmem, hfind⟩ := h
  exact ⟨records, hmore hmem, hfind⟩

/-- The numbers of handlers are drawn from a counter, and each is registered for one type. -/
structure Numbered (t : Session σ) : Prop where
  drawn : ∀ type, ∀ g ∈ t.controller.handlersOf type, g < t.registered
  apart : ∀ type type' g, g ∈ t.controller.handlersOf type →
    g ∈ t.controller.handlersOf type' → type = type'

theorem Numbered.of_same (h : t.Numbered)
    (hhandlers : u.controller.handlers = t.controller.handlers)
    (hregistered : u.registered = t.registered) : u.Numbered where
  drawn type g hg := by
    rw [Controller.handlersOf, hhandlers] at hg
    exact hregistered ▸ h.drawn type g hg
  apart type type' g hg hg' := by
    rw [Controller.handlersOf, hhandlers] at hg hg'
    exact h.apart type type' g hg hg'

theorem Numbered.register (h : t.Numbered) (type : String) :
    Numbered
      { t with
        controller := t.controller.register type t.registered
        registered := t.registered + 1 } := by
  have hmem : ∀ other g, g ∈ (t.controller.register type t.registered).handlersOf other →
      g ∈ t.controller.handlersOf other ∨ other = type ∧ g = t.registered := by
    intro other g hg
    rw [Controller.handlersOf_register] at hg
    rcases List.mem_append.mp hg with hg | hg
    · exact .inl hg
    · split at hg
      · next heq => exact .inr ⟨heq, List.mem_singleton.mp hg⟩
      · cases hg
  constructor
  · intro other g hg
    rcases hmem other g hg with hg | ⟨-, rfl⟩
    · exact Nat.lt_succ_of_lt (h.drawn other g hg)
    · exact Nat.lt_succ_self _
  · intro one two g hg hg'
    rcases hmem one g hg with hg | ⟨rfl, rfl⟩
    · rcases hmem two g hg' with hg' | ⟨-, rfl⟩
      · exact h.apart one two g hg hg'
      · exact absurd (h.drawn one _ hg) (Nat.lt_irrefl _)
    · rcases hmem two _ hg' with hg' | ⟨rfl, -⟩
      · exact absurd (h.drawn two _ hg') (Nat.lt_irrefl _)
      · rfl

theorem numbered_new (store : σ) (resync now : Nat) : (new store resync now).Numbered where
  drawn _ _ hg := absurd hg List.not_mem_nil
  apart _ _ _ hg := absurd hg List.not_mem_nil

theorem toldTo_eq_nil {handler : Nat} {notices : List Notice}
    (h : ∀ n ∈ notices, n.handler ≠ handler) : toldTo handler notices = [] := by
  rw [toldTo, List.map_eq_nil_iff, List.filter_eq_nil_iff]
  exact fun n hn heq => h n hn (beq_iff_eq.mp heq)

theorem Reached.untouched {done : List Listing} (h : Reached t done u) (hnumbered : u.Numbered)
    {type : String} (hfails : ∀ l ∈ done, l.type = type → l.Fails) : t.Untouched u type := by
  constructor
  · rw [h.snapshot]
    rcases Listing.find?_foldl_enter type done t.controller.snapshot with
      ⟨l, hl, records, htype, hlast, -⟩ | ⟨-, hfind⟩
    · exact absurd (hfails l hl htype) (Listing.not_fails_iff.mpr ⟨records, hlast⟩)
    · exact hfind
  · intro g hg
    obtain ⟨told, hdelivered, hconcern⟩ := h.told
    have hnone : toldTo g told = [] := by
      refine toldTo_eq_nil fun n hn heq => ?_
      obtain ⟨l, hl, hfine, hhandler⟩ := hconcern n (List.mem_append_left _ hn)
      exact hfine (hfails l hl (hnumbered.apart l.type type g (heq ▸ hhandler) hg))
    rw [eventsTo, hdelivered, toldTo, List.filter_append, List.map_append]
    change toldTo g t.delivered ++ toldTo g told = _
    rw [hnone, List.append_nil, eventsTo]

theorem Reached.filledFrom {done : List Listing} (h : Reached t done u) {l : Listing}
    (hl : l ∈ done) (hfine : ¬ l.Fails) : u.FilledFrom (done.flatMap Listing.replies) l.type := by
  rcases Listing.find?_foldl_enter l.type done t.controller.snapshot with
    ⟨k, hk, records, htype, hlast, hfind⟩ | ⟨hfails, -⟩
  · refine ⟨records, List.mem_flatMap.mpr ⟨k, hk, ?_⟩, h.snapshot ▸ hfind⟩
    rw [← htype, ← hlast]
    exact k.last_mem_replies
  · exact absurd (hfails l hl rfl) hfine

variable [Store σ]

theorem Numbered.move (h : t.Numbered) (m : Move σ) : (t.move m).Numbered := by
  cases m with
  | register type => exact h.register type
  | change store | stop | wait => exact h.of_same rfl rfl
  | call call =>
    obtain ⟨store, hcall⟩ := t.controller.perform_eq call
    exact h.of_same (by rw [Session.move, hcall]) rfl
  | start =>
    refine h.of_same ?_ rfl
    rw [Session.move, Controller.start]
    split <;> rfl
  | act =>
    have hacted := t.acted
    rw [Session.move]
    generalize t.act = next at hacted
    cases hacted with
    | delivered | stopped => exact h.of_same rfl rfl
    | nothing => exact h
    | turned c notices hqueue hturn =>
      refine h.of_same ?_ rfl
      cases hturn <;> rfl

theorem Numbered.after (h : t.Numbered) (moves : List (Move σ)) : (t.after moves).Numbered :=
  after_of_move (P := Numbered) (fun _ m hu => hu.move m) h moves

theorem Numbered.of_mem_moments (h : t.Numbered) {moves : List (Move σ)}
    (hu : u ∈ t.moments moves) : u.Numbered :=
  Session.of_mem_moments (P := Numbered) (fun _ m hu => hu.move m) h hu

/-- What has once been listed is replaced only by what is listed later. -/
theorem FilledFrom.move {replies : List (String × Reply)} {type : String}
    (h : t.FilledFrom replies type) (m : Move σ) :
    (t.move m).FilledFrom (replies ++ t.heard m) type := by
  obtain ⟨records, hmem, hfind⟩ := h
  have hkept : ∀ {v : Session σ} {heard : List (String × Reply)},
      v.controller.snapshot = t.controller.snapshot → v.FilledFrom (replies ++ heard) type :=
    fun hsame => ⟨records, List.mem_append_left _ hmem, hsame ▸ hfind⟩
  have hmoved := t.moved m
  generalize t.heard m = heard at hmoved
  generalize t.move m = next at hmoved
  cases hmoved with
  | aside _ _ haside | outside _ _ haside => exact hkept haside.snapshot
  | begun | rested | skipped | woke | finished => exact hkept rfl
  | listed pass type' rest records' =>
    by_cases htype : type = type'
    · subst htype
      exact ⟨records', List.mem_append_right _ (List.mem_singleton.mpr rfl),
        Table.find?_insert_self _ _ _⟩
    · exact ⟨records, List.mem_append_left _ hmem, (Table.find?_insert_ne htype _ _).trans hfind⟩

theorem FilledFrom.after {replies : List (String × Reply)} {type : String}
    (h : t.FilledFrom replies type) (moves : List (Move σ)) :
    (t.after moves).FilledFrom (replies ++ t.replies moves) type := by
  induction moves generalizing t replies with
  | nil => exact h.mono (List.subset_append_left _ _)
  | cons m moves ih =>
    rw [Session.replies, ← List.append_assoc]
    exact ih (h.move m)

/-! ### When a controller counts as synced -/

/-- A pass in which every type was listed. -/
def Completes (t : Session σ) (during : List (Move σ)) : Prop :=
  t.IsPass during ∧ ∃ listings, t.Lists during listings ∧ ∀ l ∈ listings, ¬ l.Fails

theorem exists_moved (t : Session σ) (m : Move σ) : ∃ heard, t.Moved m heard (t.move m) :=
  ⟨t.heard m, t.moved m⟩

theorem synced_move (h : t.controller.synced = true) (m : Move σ) :
    (t.move m).controller.synced = true := by
  obtain ⟨heard, hmoved⟩ := t.exists_moved m
  generalize t.move m = next at hmoved
  cases hmoved with
  | aside _ _ _ hsynced | outside _ _ _ hsynced => exact hsynced.trans h
  | begun | listed | rested | skipped | woke => exact h
  | finished pass => exact Bool.or_eq_true_iff.mpr (.inl h)

theorem synced_after (h : t.controller.synced = true) (moves : List (Move σ)) :
    (t.after moves).controller.synced = true :=
  after_of_move (P := fun u => u.controller.synced = true) (fun _ m hu => synced_move hu m) h moves

/-- Only at the end of a pass a controller begins to count as synced. -/
theorem ends_of_synced {m : Move σ} (h : t.controller.synced ≠ true)
    (hnext : (t.move m).controller.synced = true) :
    m = .act ∧ t.pass? ≠ none ∧ (t.move m).pass? = none := by
  obtain ⟨heard, hmoved⟩ := t.exists_moved m
  generalize t.move m = next at hmoved hnext
  cases hmoved with
  | aside _ _ _ hsynced | outside _ _ _ hsynced => exact absurd (hsynced ▸ hnext) h
  | begun | listed | rested | skipped | woke => exact absurd hnext h
  | finished pass hqueue hphase =>
    exact ⟨rfl, pass?_of_listing hphase ▸ Option.some_ne_none pass, rfl⟩

theorem eq_act_of_begins {m : Move σ} (h : t.pass? = none) (hnext : (t.move m).pass? ≠ none) :
    m = .act := by
  obtain ⟨heard, hmoved⟩ := t.exists_moved m
  generalize t.move m = next at hmoved hnext
  cases hmoved with
  | aside _ _ _ _ hphase =>
    rw [pass?, hphase] at hnext
    exact absurd h hnext
  | outside _ _ _ _ _ hpass => exact absurd hpass hnext
  | begun | listed | rested | skipped | woke | finished => rfl

/-- A pass that is under way has begun with some act. -/
theorem exists_begin (hidle : t.pass? = none) {moves : List (Move σ)}
    (h : (t.after moves).pass? ≠ none) :
    ∃ before during, moves = before ++ .act :: during ∧ (t.after before).pass? = none ∧
      ∀ m ∈ ((t.after before).move .act).moments during, m.pass? ≠ none := by
  induction moves using List.reverseRecOn with
  | nil => exact absurd hidle h
  | append_singleton moves m ih =>
    by_cases hprevious : (t.after moves).pass? = none
    · rw [after_concat] at h
      obtain rfl := eq_act_of_begins hprevious h
      refine ⟨moves, [], rfl, hprevious, fun k hk => ?_⟩
      rw [List.mem_singleton.mp hk]
      exact h
    · obtain ⟨before, during, rfl, hbegins, hlasts⟩ := ih hprevious
      refine ⟨before, during ++ [m], ?_, hbegins, fun k hk => ?_⟩
      · rw [List.append_assoc, List.cons_append]
      · rw [moments_concat] at hk
        rcases List.mem_append.mp hk with hk | hk
        · exact hlasts k hk
        · rw [List.append_assoc, after_append] at h
          exact List.mem_singleton.mp hk ▸ h

theorem Ended.lists {during : List (Move σ)} {listings : List Listing}
    (h : t.Ended (passing during) listings) : t.Lists during listings := ⟨h.types, h.heard⟩

theorem IsPass.ended {during : List (Move σ)} (h : t.IsPass during) {listings : List Listing}
    (hlists : t.Lists during listings) : t.Ended (passing during) listings := by
  obtain ⟨ks, hended⟩ := h.exists_ended
  rw [hlists.unique hended.lists]
  exact hended

theorem synced_iff (hidle : t.pass? = none) (hsynced : t.controller.synced ≠ true)
    (moves : List (Move σ)) :
    (t.after moves).controller.synced = true ↔ ∃ before during after,
      moves = before ++ passing during ++ after ∧ (t.after before).Completes during := by
  constructor
  · intro h
    induction moves using List.reverseRecOn with
    | nil => exact absurd h hsynced
    | append_singleton moves m ih =>
      by_cases hprevious : (t.after moves).controller.synced = true
      · obtain ⟨before, during, after, rfl, hcompletes⟩ := ih hprevious
        exact ⟨before, during, after ++ [m], List.append_assoc _ _ _, hcompletes⟩
      · rw [after_concat] at h
        obtain ⟨rfl, hunder, hends⟩ := ends_of_synced hprevious h
        obtain ⟨before, during, rfl, hbegins, hlasts⟩ := exists_begin hidle hunder
        have hwhole : before ++ .act :: during ++ [.act] = before ++ passing during := by
          rw [List.append_assoc]
          rfl
        rw [← after_concat, hwhole, after_append] at h hends
        have hpass : (t.after before).IsPass during := ⟨hbegins, hlasts, hends⟩
        obtain ⟨listings, hended⟩ := hpass.exists_ended
        refine ⟨before, during, [], by rw [hwhole, List.append_nil], hpass, listings,
          hended.lists, ?_⟩
        refine (hended.synced.mp h).resolve_left fun hearly => hprevious ?_
        rw [after_append]
        exact synced_after hearly _
  · rintro ⟨before, during, after, rfl, hpass, listings, hlists, hfine⟩
    rw [after_append, after_append]
    exact synced_after ((hpass.ended hlists).synced.mpr (.inr hfine)) after

theorem Completes.filledFrom {during : List (Move σ)} (h : t.Completes during) {type : String}
    (htype : type ∈ (Store.catalog t.controller.store).types) :
    (t.after (passing during)).FilledFrom (t.replies (passing during)) type := by
  obtain ⟨hpass, listings, hlists, hfine⟩ := h
  rw [← hlists.types] at htype
  obtain ⟨l, hl, rfl⟩ := List.mem_map.mp htype
  rw [← hlists.heard]
  exact (hpass.ended hlists).reached.filledFrom hl (hfine l hl)

/-! ### Passes come to an end -/

/-- How far a pass is from its end. A type takes two turns each time the store is unavailable. -/
def distance (t : Session σ) : Nat :=
  match t.controller.phase with
  | .listing pass =>
    pass.rest.length * (2 * Controller.attempts + 1) + 2 * (Controller.attempts - pass.failures)
  | .resting _ pass =>
    pass.rest.length * (2 * Controller.attempts + 1) + 2 * (Controller.attempts - pass.failures) + 1
  | .idle | .waiting _ => 0

theorem act_of_turn_of_pass (hunder : t.pass? ≠ none) (hqueue : t.queue = [])
    {c : Controller σ} {notices : List Notice}
    (hturn : t.controller.turn t.now = some (c, notices)) :
    t.act = { t with controller := c, queue := notices } := by
  have hwaiting : t.isWaiting = false := by
    rw [Bool.eq_false_iff]
    intro hwaits
    obtain ⟨tick, hphase⟩ := exists_of_isWaiting hwaits
    exact hunder (by rw [pass?, hphase])
  simp only [act, hqueue, hwaiting, hturn, Bool.and_false, Bool.false_eq_true, if_false]

/-- A turn that is taken in a pass comes nearer to its end. -/
theorem distance_turn (hunder : t.pass? ≠ none) {c : Controller σ} {notices : List Notice}
    (hturn : Controller.Turn t.now t.controller c notices) :
    pass? { t with controller := c, queue := notices } = none ∨
      distance { t with controller := c, queue := notices } < t.distance := by
  cases hturn with
  | relisted tick hphase | ticked tick hphase => exact absurd (by rw [pass?, hphase]) hunder
  | listed pass type rest records hphase hrest | skipped pass type rest e hphase hrest =>
    right
    rw [distance, distance, hphase]
    simp only [hrest, List.length_cons, Controller.attempts]
    omega
  | rested pass type rest reason hphase hrest herror hmore =>
    right
    rw [distance, distance, hphase]
    simp only
    omega
  | finished pass hphase hrest => exact .inl rfl
  | woke wake pass hphase hdue =>
    right
    rw [distance, distance, hphase]
    exact Nat.lt_succ_self _

/-- A rest that is slept to its end. -/
theorem phase_of_slept (hqueue : t.queue = []) {wake : Nat} {pass : Pass}
    (hrests : t.controller.phase = .resting wake pass) (hearly : t.now ≤ wake) :
    (t.after [.wait (wake - t.now), .act]).controller.phase = .listing pass := by
  let slept := t.move (.wait (wake - t.now))
  have hunder : slept.pass? ≠ none := pass?_of_resting hrests ▸ Option.some_ne_none pass
  have hdue : wake ≤ slept.now := by
    change wake ≤ t.now + (wake - t.now)
    omega
  have hturn : slept.controller.turn slept.now =
      some ({ t.controller with phase := .listing pass }, []) := by
    change t.controller.turn slept.now = _
    rw [Controller.turn, hrests]
    exact if_pos hdue
  change slept.act.controller.phase = _
  rw [act_of_turn_of_pass hunder hqueue hturn]

/-- Whatever is under way, acting comes nearer to the end of a pass, perhaps after a rest. -/
theorem exists_nearer (hunder : t.pass? ≠ none) :
    ∃ more : List (Move σ), (∀ m ∈ more, m = .act ∨ ∃ time, m = .wait time) ∧
      ((t.after more).pass? = none ∨ (t.after more).distance < t.distance ∨
        (t.after more).distance = t.distance ∧ (t.after more).queue.length < t.queue.length) := by
  have hact : ∀ m ∈ [(.act : Move σ)], m = .act ∨ ∃ time, m = .wait time :=
    fun m hm => .inl (List.mem_singleton.mp hm)
  cases hqueue : t.queue with
  | cons n queue =>
    refine ⟨[.act], hact, .inr (.inr ?_)⟩
    change t.act.distance = t.distance ∧ t.act.queue.length < _
    rw [act_of_queue hqueue]
    exact ⟨rfl, Nat.lt_succ_self _⟩
  | nil =>
    cases hturn : t.controller.turn t.now with
    | some next =>
      obtain ⟨c, notices⟩ := next
      refine ⟨[.act], hact, ?_⟩
      change t.act.pass? = none ∨ t.act.distance < t.distance ∨ _
      rw [act_of_turn_of_pass hunder hqueue hturn]
      rcases distance_turn hunder (Controller.turn_cases hturn) with hends | hnearer
      · exact .inl hends
      · exact .inr (.inl hnearer)
    | none =>
      -- the controller rests, so the wait for its wake is followed by the turn that it takes then
      rcases Controller.turn_eq_none_iff.mp hturn with hidle | ⟨tick, hwaits, -⟩ |
        ⟨wake, pass, hrests, hearly⟩
      · exact absurd (by rw [pass?, hidle]) hunder
      · exact absurd (by rw [pass?, hwaits]) hunder
      · refine ⟨[.wait (wake - t.now), .act], ?_, .inr (.inl ?_)⟩
        · intro m hm
          rcases List.mem_cons.mp hm with rfl | hm
          · exact .inr ⟨_, rfl⟩
          · exact hact m hm
        · rw [distance, distance, phase_of_slept hqueue hrests (Nat.le_of_lt hearly), hrests]
          exact Nat.lt_succ_self _

theorem exists_ends (t : Session σ) :
    ∃ more : List (Move σ), (∀ m ∈ more, m = .act ∨ ∃ time, m = .wait time) ∧
      (t.after more).pass? = none := by
  by_cases hunder : t.pass? = none
  · exact ⟨[], fun m hm => absurd hm List.not_mem_nil, hunder⟩
  · obtain ⟨more, hmore, hnearer⟩ := exists_nearer hunder
    rcases hnearer with hends | hnearer
    · exact ⟨more, hmore, hends⟩
    · obtain ⟨rest, hrest, hends⟩ := exists_ends (t.after more)
      refine ⟨more ++ rest, fun m hm => ?_, by rw [after_append, hends]⟩
      rcases List.mem_append.mp hm with hm | hm
      · exact hmore m hm
      · exact hrest m hm
termination_by (t.distance, t.queue.length)
decreasing_by
  rcases hnearer with hlt | ⟨heq, hlt⟩
  · exact Prod.Lex.left _ _ hlt
  · rw [heq]
    exact Prod.Lex.right _ hlt

/-! ### Isolation -/

/-- Of a controller that is used in any way. A pass that was begun can be ended by time and turns
alone, and at its end no notice is left. What is heard in it shows how every type of the catalog was
listed, and in one way only. All through the pass a type that failed is untouched, and at its end
the snapshots of the others are what was listed. The controller is synced from the end of the first
pass in which no type failed, and ever after, with all types filled from the store. -/
theorem failing_lists_are_isolated (store : σ) (resync now : Nat) :
    let s := new store resync now
    (∀ moves, ∃ more, (∀ m ∈ more, m = .act ∨ ∃ time, m = .wait time) ∧
      (s.after (moves ++ more)).pass? = none) ∧
    (∀ before during, let t := s.after before
      t.IsPass during →
      (t.after (passing during)).queue = [] ∧ ∃! listings, t.Lists during listings) ∧
    (∀ before during listings, let t := s.after before
      t.IsPass during → t.Lists during listings →
      (∀ type, (∀ l ∈ listings, l.type = type → l.Fails) →
        ∀ u ∈ t.moments (passing during), t.Untouched u type) ∧
      ∀ l ∈ listings, ¬ l.Fails →
        (t.after (passing during)).FilledFrom (t.replies (passing during)) l.type) ∧
    (∀ moves, (s.after moves).controller.synced = true ↔ ∃ before during after,
      moves = before ++ passing during ++ after ∧ (s.after before).Completes during) ∧
    ∀ before during after, (s.after before).Completes during →
      let u := s.after (before ++ passing during ++ after)
      u.controller.synced = true ∧
      ∀ type ∈ (Store.catalog (s.after before).controller.store).types,
        u.FilledFrom (s.replies (before ++ passing during ++ after)) type := by
  intro s
  have hsynced := synced_iff (t := s) rfl Bool.false_ne_true
  refine ⟨?_, ?_, ?_, hsynced, ?_⟩
  · intro moves
    obtain ⟨more, hmore, hends⟩ := exists_ends (s.after moves)
    exact ⟨more, hmore, by rw [after_append, hends]⟩
  · intro before during t hpass
    obtain ⟨listings, hended⟩ := hpass.exists_ended
    exact ⟨hended.settled, listings, hended.lists, fun ks hks => hks.unique hended.lists⟩
  · intro before during listings t hpass hlists
    have hended := hpass.ended hlists
    have hnumbered : t.Numbered := (numbered_new store resync now).after before
    refine ⟨fun type hfails u hu => ?_, fun l hl hfine => ?_⟩
    · obtain ⟨front, hfront, hreached⟩ := hended.before u hu
      exact hreached.untouched (hnumbered.of_mem_moments hu)
        fun l hl => hfails l (hfront.subset hl)
    · rw [← hlists.heard]
      exact hended.reached.filledFrom hl hfine
  · intro before during after hcompletes u
    refine ⟨(hsynced _).mpr ⟨before, during, after, rfl, hcompletes⟩, fun type htype => ?_⟩
    have hfilled := ((hcompletes.filledFrom htype).mono
      (List.subset_append_right (s.replies before) _)).after after
    simp only [u, after_append, replies_append]
    exact hfilled

/-! ### An outage -/

/-- Notes and memos. -/
def deskCatalog : Catalog :=
  Memory.noteCatalog ++ [⟨"memo", "memos", "test.Memo", false, fun _ => .ok "b", fun _ => .ok []⟩]

/-- A store with a note and a memo, whose notes cannot be listed four times. -/
def desk : Fragile Memory where
  store := afterCalls (Memory.new deskCatalog)
    [.post (Memory.noteMessage 1), .post ⟨"test.Memo", .int 2⟩]
  overlay := []
  outages := [⟨.list, some "note", some 4, .unavailable "down"⟩]
  sorted := true

def opening : List (Move (Fragile Memory)) := [.register "note", .start]

def opened : Session (Fragile Memory) := (new desk 1000 0).after opening

/-- The notes are asked for four times, then the memos are listed. -/
def outage : List (Move (Fragile Memory)) :=
  [.act, .wait 10, .act, .act, .wait 20, .act, .act, .wait 40, .act, .act, .act]

def outageListings : List Listing :=
  [⟨"note", ["down", "down", "down"], .error (.unavailable "down"), by decide, fun _ _ => rfl⟩,
    ⟨"memo", [], .ok (desk.store.list "memo"), by decide, fun _ hlast => by cases hlast⟩]

/-- The session at the next tick. -/
def reopened : Session (Fragile Memory) :=
  (new desk 1000 0).after (opening ++ passing outage ++ [.wait 930])

/-- The notes are listed and the handler is told, then the memos are listed. -/
def recovery : List (Move (Fragile Memory)) := [.act, .act, .act]

def recoveryListings : List Listing :=
  [⟨"note", [], .ok (desk.store.list "note"), by decide, fun _ hlast => by cases hlast⟩,
    ⟨"memo", [], .ok (desk.store.list "memo"), by decide, fun _ hlast => by cases hlast⟩]

theorem completes_recovery : reopened.Completes recovery := by
  refine ⟨isPass_of_all (by decide +kernel) (by decide +kernel) (by decide +kernel),
    recoveryListings, ⟨by decide +kernel, by with_unfolding_all rfl⟩,
    fun l hl => Listing.not_fails_iff.mpr ?_⟩
  rcases List.mem_cons.mp hl with rfl | hl
  · exact ⟨_, rfl⟩
  · rw [List.mem_singleton.mp hl]
    exact ⟨_, rfl⟩

theorem failing_lists_are_isolated_of_outage :
    opened.IsPass outage ∧ (opened.after (passing outage)).controller.synced = false ∧
      (∀ u ∈ opened.moments (passing outage), opened.Untouched u "note") ∧
      (opened.after (passing outage)).FilledFrom (opened.replies (passing outage)) "memo" ∧
      (reopened.after (passing recovery)).controller.synced = true ∧
      (reopened.after (passing recovery)).eventsTo 0 ≠ [] := by
  obtain ⟨-, -, hpasses, hsynced, -⟩ := failing_lists_are_isolated desk 1000 0
  have hpass : opened.IsPass outage :=
    isPass_of_all (by decide +kernel) (by decide +kernel) (by decide +kernel)
  have hlists : opened.Lists outage outageListings := ⟨by decide +kernel, by with_unfolding_all rfl⟩
  obtain ⟨huntouched, hfilled⟩ := hpasses opening outage outageListings hpass hlists
  refine ⟨hpass, by decide +kernel, huntouched "note" fun l hl htype => ?_,
    hfilled outageListings[1] (List.getElem_mem _) (Listing.not_fails_iff.mpr ⟨_, rfl⟩), ?_, ?_⟩
  · rcases List.mem_cons.mp hl with rfl | hl
    · exact Listing.fails_iff.mpr ⟨_, rfl⟩
    · rw [List.mem_singleton.mp hl] at htype
      exact absurd htype (by decide)
  · rw [reopened, ← after_append]
    exact (hsynced _).mpr ⟨_, recovery, [], (List.append_nil _).symm, completes_recovery⟩
  · exact List.length_pos_iff.mp (by decide +kernel)

end Session

end MeshControl.Config
