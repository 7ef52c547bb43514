import MeshControl.Proofs.Config.Session

/-!
What a controller hears from its store. Along a session the store is asked for one type after
another and answers with records or with an error; an error that may pass is asked about again, up
to four times. A listing is all that is heard of one type in one pass, and what a pass hears tells
how each of its types was listed. Every move of a session is one of eight things.
-/
namespace MeshControl.Config

/-- What a store answers when it is asked to list a type. -/
abbrev Reply := Except StoreError (List Record)

/-- How one type was listed in a pass: why the store was unavailable at first, and its last reply,
which is of that kind only if it is the fourth. -/
structure Listing where
  type : String
  reasons : List String
  last : Reply
  patient : reasons.length < Controller.attempts
  final : ∀ reason, last = .error (.unavailable reason) →
    reasons.length + 1 = Controller.attempts

namespace Listing

/-- All replies of a listing in their order, with its type. -/
def replies (l : Listing) : List (String × Reply) :=
  l.reasons.map (fun reason => (l.type, .error (.unavailable reason))) ++ [(l.type, l.last)]

/-- The store failed in another way than by being unavailable, or it was unavailable four times. -/
def Fails (l : Listing) : Prop :=
  (∃ e, l.last = .error e ∧ ∀ reason, e ≠ .unavailable reason) ∨
    l.replies.length = 4 ∧ ∀ r ∈ l.replies, ∃ reason, r.2 = .error (.unavailable reason)

/-- A snapshot with the records that were listed, if any were. -/
def enter (snapshot : Table (List Record)) (l : Listing) : Table (List Record) :=
  match l.last with
  | .ok records => snapshot.insert l.type (Fragile.sortByKey records)
  | .error _ => snapshot

theorem length_replies (l : Listing) : l.replies.length = l.reasons.length + 1 := by
  rw [replies, List.length_append, List.length_map, List.length_singleton]

theorem last_mem_replies (l : Listing) : (l.type, l.last) ∈ l.replies :=
  List.mem_append_right _ (List.mem_singleton.mpr rfl)

theorem fails_iff {l : Listing} : l.Fails ↔ ∃ e, l.last = .error e := by
  constructor
  · rintro (⟨e, he, -⟩ | ⟨-, hall⟩)
    · exact ⟨e, he⟩
    · obtain ⟨reason, hreason⟩ := hall _ l.last_mem_replies
      exact ⟨.unavailable reason, hreason⟩
  · rintro ⟨e, he⟩
    by_cases hpasses : ∃ reason, e = .unavailable reason
    · obtain ⟨reason, rfl⟩ := hpasses
      right
      refine ⟨l.length_replies.trans (l.final reason he), fun r hr => ?_⟩
      rcases List.mem_append.mp hr with hearlier | hlast
      · obtain ⟨earlier, -, rfl⟩ := List.mem_map.mp hearlier
        exact ⟨earlier, rfl⟩
      · rw [List.mem_singleton.mp hlast]
        exact ⟨reason, he⟩
    · exact .inl ⟨e, he, fun reason heq => hpasses ⟨reason, heq⟩⟩

theorem not_fails_iff {l : Listing} : ¬ l.Fails ↔ ∃ records, l.last = .ok records := by
  rw [fails_iff]
  cases l.last with
  | ok records => simp
  | error e => simp

/-- Of the listings of a type the last that was answered with records is the one that counts. -/
theorem find?_foldl_enter (type : String) (ls : List Listing) (snapshot : Table (List Record)) :
    (∃ l ∈ ls, ∃ records, l.type = type ∧ l.last = .ok records ∧
      (ls.foldl enter snapshot).find? type = some (Fragile.sortByKey records)) ∨
    (∀ l ∈ ls, l.type = type → l.Fails) ∧
      (ls.foldl enter snapshot).find? type = snapshot.find? type := by
  induction ls generalizing snapshot with
  | nil => exact .inr ⟨fun _ hl => absurd hl List.not_mem_nil, rfl⟩
  | cons l ls ih =>
    rw [List.foldl_cons]
    rcases ih (enter snapshot l) with ⟨k, hk, hfound⟩ | ⟨hfail, hfind⟩
    · exact .inl ⟨k, List.mem_cons_of_mem l hk, hfound⟩
    · rw [hfind]
      cases hlast : l.last with
      | error e =>
        right
        refine ⟨List.forall_mem_cons.mpr ⟨fun _ => fails_iff.mpr ⟨e, hlast⟩, hfail⟩, ?_⟩
        rw [enter, hlast]
      | ok records =>
        by_cases htype : l.type = type
        · left
          refine ⟨l, List.mem_cons_self, records, htype, hlast, ?_⟩
          rw [enter, hlast, ← htype]
          exact Table.find?_insert_self _ _ _
        · right
          refine ⟨List.forall_mem_cons.mpr ⟨fun heq => absurd heq htype, hfail⟩, ?_⟩
          rw [enter, hlast]
          exact Table.find?_insert_ne (Ne.symm htype) _ _

theorem getElem?_reason {l : Listing} {i : Nat} (hi : i < l.reasons.length)
    (rest : List (String × Reply)) :
    ∃ reason, (l.replies ++ rest)[i]? = some (l.type, .error (.unavailable reason)) := by
  refine ⟨l.reasons[i], ?_⟩
  rw [replies, List.append_assoc, List.getElem?_append_left (by rwa [List.length_map]),
    List.getElem?_map, List.getElem?_eq_getElem hi]
  rfl

theorem getElem?_last (l : Listing) (rest : List (String × Reply)) :
    (l.replies ++ rest)[l.reasons.length]? = some (l.type, l.last) := by
  simp [replies]

/-- A listing goes on as long as its replies ask for it, so none goes on where another ends. -/
theorem length_reasons_le {l k : Listing} {rest rest' : List (String × Reply)}
    (h : l.replies ++ rest = k.replies ++ rest') : k.reasons.length ≤ l.reasons.length := by
  refine Nat.le_of_not_lt fun hlt => ?_
  obtain ⟨reason, hreason⟩ := getElem?_reason hlt rest'
  have hlast := getElem?_last l rest
  rw [h, hreason, Option.some.injEq, Prod.mk.injEq] at hlast
  have hfull := l.final reason hlast.2.symm
  have hpatient := k.patient
  omega

theorem eq_of_replies_append {l k : Listing} {rest rest' : List (String × Reply)}
    (h : l.replies ++ rest = k.replies ++ rest') : l = k ∧ rest = rest' := by
  have hreasons : l.reasons.length = k.reasons.length :=
    Nat.le_antisymm (length_reasons_le h.symm) (length_reasons_le h)
  have hlength : l.replies.length = k.replies.length := by
    rw [length_replies, length_replies, hreasons]
  obtain ⟨hsame, hrest⟩ := List.append_inj h hlength
  refine ⟨?_, hrest⟩
  obtain ⟨hearlier, hlast⟩ := List.append_inj' hsame rfl
  obtain ⟨htype, hreply⟩ := Prod.mk.inj (List.singleton_inj.mp hlast)
  rw [htype] at hearlier
  have hall : l.reasons = k.reasons := by
    refine (List.map_inj_right fun a b hab => ?_).mp hearlier
    injection hab with _ he
    exact StoreError.unavailable.inj (Except.error.inj he)
  cases l
  cases k
  cases htype
  cases hall
  cases hreply
  rfl

/-- What is heard in a pass tells how each type was listed. -/
theorem flatMap_replies_inj {ls ks : List Listing} (hlength : ls.length = ks.length)
    (h : ls.flatMap replies = ks.flatMap replies) : ls = ks := by
  induction ls generalizing ks with
  | nil => rw [List.length_nil, eq_comm, List.length_eq_zero_iff] at hlength; exact hlength.symm
  | cons l ls ih =>
    cases ks with
    | nil => cases hlength
    | cons k ks =>
      rw [List.flatMap_cons, List.flatMap_cons] at h
      obtain ⟨rfl, hrest⟩ := eq_of_replies_append h
      rw [ih (Nat.succ.inj hlength) hrest]

end Listing

namespace Session

variable {σ : Type}

/-- The pass that is under way, also while the controller rests. -/
def pass? (t : Session σ) : Option Pass :=
  match t.controller.phase with
  | .listing pass | .resting _ pass => some pass
  | .idle | .waiting _ => none

theorem pass?_of_listing {t : Session σ} {pass : Pass} (h : t.controller.phase = .listing pass) :
    t.pass? = some pass := by
  rw [pass?, h]

theorem pass?_of_resting {t : Session σ} {pass : Pass} {wake : Nat}
    (h : t.controller.phase = .resting wake pass) : t.pass? = some pass := by
  rw [pass?, h]

/-- One session follows another with nothing listed in between: at most a notice that was due is
delivered, or a handler is registered. -/
structure Aside (t u : Session σ) : Prop where
  snapshot : u.controller.snapshot = t.controller.snapshot
  handlers : ∀ type, t.controller.handlersOf type ⊆ u.controller.handlersOf type
  told : ∃ told, u.delivered = t.delivered ++ told ∧ told ++ u.queue = t.queue

theorem Aside.of_same {t u : Session σ} (hsnapshot : u.controller.snapshot = t.controller.snapshot)
    (hhandlers : u.controller.handlers = t.controller.handlers) (hqueue : u.queue = t.queue)
    (hdelivered : u.delivered = t.delivered) : t.Aside u where
  snapshot := hsnapshot
  handlers type := by
    rw [Controller.handlersOf, Controller.handlersOf, hhandlers]
    exact List.Subset.refl _
  told := ⟨[], by rw [hdelivered, List.append_nil], hqueue⟩

theorem exists_of_isWaiting {t : Session σ} (h : t.isWaiting = true) :
    ∃ tick, t.controller.phase = .waiting tick := by
  rw [isWaiting] at h
  split at h
  · next tick hphase => exact ⟨tick, hphase⟩
  · cases h

variable [Store σ]

/-- The type that the next act asks the store for, and what the store replies. -/
def asks? (t : Session σ) : Option (String × Reply) :=
  match t.queue, t.controller.phase with
  | [], .listing pass =>
    pass.rest.head?.map fun type => (type, (Store.list t.controller.store type).1)
  | _, _ => none

/-- What the controller hears from its store in a move. -/
def heard (t : Session σ) : Move σ → List (String × Reply)
  | .act => t.asks?.toList
  | _ => []

/-- What the controller hears along the moves. -/
def replies (t : Session σ) : List (Move σ) → List (String × Reply)
  | [] => []
  | m :: moves => t.heard m ++ (t.move m).replies moves

theorem replies_append (t : Session σ) (moves more : List (Move σ)) :
    t.replies (moves ++ more) = t.replies moves ++ (t.after moves).replies more := by
  induction moves generalizing t with
  | nil => rfl
  | cons m moves ih =>
    rw [List.cons_append, replies, replies, ih, List.append_assoc]
    rfl

theorem replies_concat (t : Session σ) (moves : List (Move σ)) (m : Move σ) :
    t.replies (moves ++ [m]) = t.replies moves ++ (t.after moves).heard m := by
  rw [replies_append, replies, replies, List.append_nil]

/-! ### What one move does -/

/-- Everything that a move can be for a pass: the move, what is heard in it, and the session after
it. -/
inductive Moved (t : Session σ) : Move σ → List (String × Reply) → Session σ → Prop
  | aside (m : Move σ) (u : Session σ) (haside : t.Aside u)
      (hsynced : u.controller.synced = t.controller.synced)
      (hphase : u.controller.phase = t.controller.phase) : Moved t m [] u
  | outside (m : Move σ) (u : Session σ) (haside : t.Aside u)
      (hsynced : u.controller.synced = t.controller.synced) (hpass : t.pass? = none)
      (hpass' : u.pass? = none) : Moved t m [] u
  | begun (relist : Bool) (tick : Nat) (hqueue : t.queue = []) (hpass : t.pass? = none) :
      Moved t .act []
        { t with
          controller := { t.controller with
            relist
            phase := .listing ⟨tick, (Store.catalog t.controller.store).types, 0, true⟩ }
          queue := [] }
  | listed (pass : Pass) (type : String) (rest : List String) (records : List Record)
      (hqueue : t.queue = []) (hphase : t.controller.phase = .listing pass)
      (hrest : pass.rest = type :: rest)
      (hok : (Store.list t.controller.store type).1 = .ok records) :
      Moved t .act [(type, .ok records)]
        { t with
          controller := { t.controller.withStore (Store.list t.controller.store type).2 with
            snapshot := t.controller.snapshot.insert type (Fragile.sortByKey records)
            phase := .listing ⟨pass.tick, rest, 0, pass.complete⟩ }
          queue := t.controller.notices type t.now
            (sweep (t.controller.known type) (Fragile.sortByKey records)) }
  | rested (pass : Pass) (type : String) (rest : List String) (reason : String)
      (hqueue : t.queue = []) (hphase : t.controller.phase = .listing pass)
      (hrest : pass.rest = type :: rest)
      (hmore : pass.failures + 1 < Controller.attempts) :
      Moved t .act [(type, .error (.unavailable reason))]
        { t with
          controller := { t.controller.withStore (Store.list t.controller.store type).2 with
            phase := .resting (t.now + t.controller.restAfter pass.failures)
              { pass with failures := pass.failures + 1 } }
          queue := [] }
  | skipped (pass : Pass) (type : String) (rest : List String) (e : StoreError)
      (hqueue : t.queue = []) (hphase : t.controller.phase = .listing pass)
      (hrest : pass.rest = type :: rest)
      (hlast : ∀ reason, e = .unavailable reason → Controller.attempts ≤ pass.failures + 1) :
      Moved t .act [(type, .error e)]
        { t with
          controller := { t.controller.withStore (Store.list t.controller.store type).2 with
            phase := .listing ⟨pass.tick, rest, 0, false⟩ }
          queue := [] }
  | woke (wake : Nat) (pass : Pass) (hqueue : t.queue = [])
      (hphase : t.controller.phase = .resting wake pass) (hdue : wake ≤ t.now) :
      Moved t .act []
        { t with controller := { t.controller with phase := .listing pass }, queue := [] }
  | finished (pass : Pass) (hqueue : t.queue = []) (hphase : t.controller.phase = .listing pass)
      (hrest : pass.rest = []) :
      Moved t .act []
        { t with
          controller := { t.controller with
            synced := t.controller.synced || pass.complete
            phase := .waiting pass.tick }
          queue := [] }

theorem heard_act_of_asking {t : Session σ} {pass : Pass} {type : String} {rest : List String}
    (hqueue : t.queue = []) (hphase : t.controller.phase = .listing pass)
    (hrest : pass.rest = type :: rest) :
    t.heard .act = [(type, (Store.list t.controller.store type).1)] := by
  simp only [heard, asks?, hqueue, hphase, hrest, List.head?_cons, Option.map_some,
    Option.toList_some]

theorem heard_act_of_finishing {t : Session σ} {pass : Pass} (hqueue : t.queue = [])
    (hphase : t.controller.phase = .listing pass) (hrest : pass.rest = []) :
    t.heard .act = [] := by
  simp only [heard, asks?, hqueue, hphase, hrest, List.head?_nil, Option.map_none,
    Option.toList_none]

theorem heard_act_of_not_listing {t : Session σ} (h : ∀ pass, t.controller.phase ≠ .listing pass) :
    t.heard .act = [] := by
  rw [heard, asks?]
  split
  · next pass _ hphase => exact absurd hphase (h pass)
  · rfl

theorem moved_of_turn {t : Session σ} {c : Controller σ} {notices : List Notice}
    (hqueue : t.queue = []) (h : Controller.Turn t.now t.controller c notices) :
    t.Moved .act (t.heard .act) { t with controller := c, queue := notices } := by
  cases h with
  | relisted tick hphase | ticked tick hphase =>
    rw [heard_act_of_not_listing fun pass h => by cases hphase.symm.trans h]
    exact .begun _ _ hqueue (by rw [pass?, hphase])
  | listed pass type rest records hphase hrest hok =>
    rw [heard_act_of_asking hqueue hphase hrest, hok]
    exact .listed pass type rest records hqueue hphase hrest hok
  | rested pass type rest reason hphase hrest herror hmore =>
    rw [heard_act_of_asking hqueue hphase hrest, herror]
    exact .rested pass type rest reason hqueue hphase hrest hmore
  | skipped pass type rest e hphase hrest herror hlast =>
    rw [heard_act_of_asking hqueue hphase hrest, herror]
    exact .skipped pass type rest e hqueue hphase hrest hlast
  | finished pass hphase hrest =>
    rw [heard_act_of_finishing hqueue hphase hrest]
    exact .finished pass hqueue hphase hrest
  | woke wake pass hphase hdue =>
    rw [heard_act_of_not_listing fun pass h => by cases hphase.symm.trans h]
    exact .woke wake pass hqueue hphase hdue

theorem moved (t : Session σ) (m : Move σ) : t.Moved m (t.heard m) (t.move m) := by
  cases m with
  | register type =>
    refine .aside _ _ ⟨rfl, fun other g hg => ?_, [], (List.append_nil _).symm, rfl⟩ rfl rfl
    rw [move, Controller.handlersOf_register]
    exact List.mem_append_left _ hg
  | change store => exact .aside _ _ (.of_same rfl rfl rfl rfl) rfl rfl
  | call call =>
    obtain ⟨store, hcall⟩ := t.controller.perform_eq call
    have hcontroller : (t.move (.call call)).controller = _ := hcall
    refine .aside _ _ (.of_same ?_ ?_ rfl rfl) ?_ ?_
    all_goals rw [hcontroller]
  | start =>
    by_cases hidle : t.controller.phase = .idle
    · have hstart := Controller.start_of_idle hidle t.now
      refine .outside _ _ (.of_same ?_ ?_ rfl rfl) ?_ (by rw [pass?, hidle]) ?_
      all_goals simp only [move, hstart, pass?]
    · have hstart := Controller.start_of_running hidle t.now
      refine .aside _ _ (.of_same ?_ ?_ rfl rfl) ?_ ?_
      all_goals rw [move, hstart]
  | stop => exact .aside _ _ (.of_same rfl rfl rfl rfl) rfl rfl
  | wait time => exact .aside _ _ (.of_same rfl rfl rfl rfl) rfl rfl
  | act =>
    cases hqueue : t.queue with
    | cons n queue =>
      have hheard : t.heard .act = [] := by simp only [heard, asks?, hqueue, Option.toList_none]
      rw [hheard, move, act_of_queue hqueue]
      exact .aside _ _ ⟨rfl, fun _ => List.Subset.refl _, [n], rfl, hqueue.symm⟩ rfl rfl
    | nil =>
      rw [move, act, hqueue]
      dsimp only
      by_cases hstop : (t.stopping && t.isWaiting) = true
      · rw [if_pos hstop]
        obtain ⟨tick, hphase⟩ := exists_of_isWaiting (Bool.and_eq_true_iff.mp hstop).2
        rw [heard_act_of_not_listing fun pass h => by cases hphase.symm.trans h]
        exact .outside _ _ (.of_same rfl rfl hqueue.symm rfl) rfl (by rw [pass?, hphase]) rfl
      · rw [if_neg hstop]
        cases hturn : t.controller.turn t.now with
        | some next => exact moved_of_turn hqueue (Controller.turn_cases hturn)
        | none =>
          have hheard : t.heard .act = [] := by
            refine heard_act_of_not_listing fun pass h => ?_
            rcases Controller.turn_eq_none_iff.mp hturn with
              hidle | ⟨_, hwaits, -⟩ | ⟨_, _, hrests, -⟩
            · cases hidle.symm.trans h
            · cases hwaits.symm.trans h
            · cases hrests.symm.trans h
          rw [hheard]
          exact .aside _ _ (.of_same rfl rfl rfl rfl) rfl rfl

end Session

end MeshControl.Config
