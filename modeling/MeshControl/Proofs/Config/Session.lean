import MeshControl.Proofs.Config.Turns

/-!
A controller at work. Clients and handlers call it, other hands change the store under it, time
passes, and it acts: it delivers the notices of its last turn one by one, and takes the next turn
when all are delivered. A session is any list of such moves, in any order.
-/
namespace MeshControl.Config

/-- A controller with what goes on around it. Handlers are numbered as they are registered. -/
structure Session (σ : Type) where
  controller : Controller σ
  now : Nat
  /-- Whether the controller was told to stop and still has a pass to end. -/
  stopping : Bool
  registered : Nat
  /-- The notices that are still to be delivered; the handler of the first is being called. -/
  queue : List Notice
  delivered : List Notice
  /-- How many writes through the controller have succeeded. -/
  written : Nat

inductive Move (σ : Type) where
  | register (type : String)
  /-- Other hands leave the store in some state. -/
  | change (store : σ)
  /-- A call through the controller, by a client or by a handler that is being called. -/
  | call (call : Call)
  | start
  | stop
  | wait (time : Nat)
  | act

namespace Session

variable {σ : Type}

def new (store : σ) (resync now : Nat) : Session σ := ⟨.new store resync, now, false, 0, [], [], 0⟩

/-- What a list of notices tells one handler. -/
def toldTo (handler : Nat) (notices : List Notice) : List (Record × Event) :=
  (notices.filter (·.handler == handler)).map fun n => (n.record, n.event)

/-- What a handler has been told so far. -/
def eventsTo (t : Session σ) (handler : Nat) : List (Record × Event) := toldTo handler t.delivered

def isWaiting (t : Session σ) : Bool :=
  match t.controller.phase with
  | .waiting _ => true
  | _ => false

/-- A controller that was not started has listed nothing and reported nothing. -/
structure Unstarted (t : Session σ) : Prop where
  phase : t.controller.phase = .idle
  stopping : t.stopping = false
  snapshot : t.controller.snapshot = Table.empty
  numbered : ∀ type, ∀ g ∈ t.controller.handlersOf type, g < t.registered
  queue : t.queue = []
  delivered : t.delivered = []

theorem unstarted_new (store : σ) (resync now : Nat) : (new store resync now).Unstarted where
  phase := rfl
  stopping := rfl
  snapshot := rfl
  numbered _ _ hg := absurd hg List.not_mem_nil
  queue := rfl
  delivered := rfl

variable [Store σ]

/-- The controller ends the call of a handler, stops if it was told to, or takes a turn. -/
def act (t : Session σ) : Session σ :=
  match t.queue with
  | n :: queue => { t with queue, delivered := t.delivered ++ [n] }
  | [] =>
    if t.stopping && t.isWaiting then
      { t with controller := { t.controller with phase := .idle }, stopping := false }
    else match t.controller.turn t.now with
      | some (controller, queue) => { t with controller, queue }
      | none => t

def move (t : Session σ) : Move σ → Session σ
  | .register type =>
    { t with
      controller := t.controller.register type t.registered
      registered := t.registered + 1 }
  | .change store => { t with controller := t.controller.withStore store }
  | .call call =>
    { t with
      controller := (call.perform t.controller).2
      written := t.written + (call.perform t.controller).1.succeeded.toNat }
  | .start => { t with controller := t.controller.start t.now }
  | .stop => { t with stopping := t.controller.phase != .idle }
  | .wait time => { t with now := t.now + time }
  | .act => t.act

def after (t : Session σ) (moves : List (Move σ)) : Session σ := moves.foldl move t

/-- All moments of a session, the first and the last among them. -/
def moments (t : Session σ) : List (Move σ) → List (Session σ)
  | [] => [t]
  | m :: moves => t :: moments (t.move m) moves

theorem after_append (t : Session σ) (moves more : List (Move σ)) :
    t.after (moves ++ more) = (t.after moves).after more := List.foldl_append

theorem after_concat (t : Session σ) (moves : List (Move σ)) (m : Move σ) :
    t.after (moves ++ [m]) = (t.after moves).move m := t.after_append moves [m]

theorem moments_concat (t : Session σ) (moves : List (Move σ)) (m : Move σ) :
    t.moments (moves ++ [m]) = t.moments moves ++ [t.after (moves ++ [m])] := by
  induction moves generalizing t with
  | nil => rfl
  | cons first moves ih =>
    rw [List.cons_append, moments, ih, moments]
    rfl

theorem mem_moments_self (t : Session σ) (moves : List (Move σ)) : t ∈ t.moments moves := by
  cases moves with
  | nil => exact List.mem_singleton.mpr rfl
  | cons => exact List.mem_cons_self

theorem after_mem_moments (t : Session σ) (moves : List (Move σ)) :
    t.after moves ∈ t.moments moves := by
  induction moves generalizing t with
  | nil => exact List.mem_singleton.mpr rfl
  | cons m moves ih => exact List.mem_cons_of_mem t (ih (t.move m))

/-- What every move keeps holds after any moves. -/
theorem after_of_move {P : Session σ → Prop} (hmove : ∀ t m, P t → P (t.move m)) {t : Session σ}
    (h : P t) (moves : List (Move σ)) : P (t.after moves) := by
  induction moves generalizing t with
  | nil => exact h
  | cons m moves ih => exact ih (hmove t m h)

theorem of_mem_moments {P : Session σ → Prop} (hmove : ∀ t m, P t → P (t.move m))
    {t u : Session σ} (h : P t) {moves : List (Move σ)} (hu : u ∈ t.moments moves) : P u := by
  induction moves generalizing t with
  | nil => exact List.mem_singleton.mp hu ▸ h
  | cons m moves ih =>
    rcases List.mem_cons.mp hu with rfl | hu
    · exact h
    · exact ih (hmove t m h) hu

/-! ### What one act does -/

theorem act_of_queue {t : Session σ} {n : Notice} {queue : List Notice}
    (h : t.queue = n :: queue) : t.act = { t with queue, delivered := t.delivered ++ [n] } := by
  rw [act, h]

theorem act_of_turn {t : Session σ} {c : Controller σ} {notices : List Notice}
    (hqueue : t.queue = []) (hstop : t.stopping = false)
    (h : t.controller.turn t.now = some (c, notices)) :
    t.act = { t with controller := c, queue := notices } := by
  simp only [act, hqueue, hstop, h, Bool.false_and, Bool.false_eq_true, if_false]

/-- Everything that an act can be. -/
inductive Acted (t : Session σ) : Session σ → Prop
  | delivered (n : Notice) (queue : List Notice) (hqueue : t.queue = n :: queue) :
      Acted t { t with queue, delivered := t.delivered ++ [n] }
  | stopped (hqueue : t.queue = []) (hstop : t.stopping = true) :
      Acted t { t with controller := { t.controller with phase := .idle }, stopping := false }
  | turned (c : Controller σ) (notices : List Notice) (hqueue : t.queue = [])
      (hturn : Controller.Turn t.now t.controller c notices) :
      Acted t { t with controller := c, queue := notices }
  | nothing (hqueue : t.queue = []) : Acted t t

theorem acted (t : Session σ) : t.Acted t.act := by
  rw [act]
  split
  · next n queue hqueue => exact .delivered n queue hqueue
  · next hqueue =>
    split
    · next h => exact .stopped hqueue (Bool.and_eq_true_iff.mp h).1
    · split
      · next c notices hturn => exact .turned c notices hqueue (Controller.turn_cases hturn)
      · exact .nothing hqueue

variable {t t' : Session σ}

theorem Acted.now_eq (h : t.Acted t') : t'.now = t.now := by
  cases h <;> rfl

theorem Acted.written_eq (h : t.Acted t') : t'.written = t.written := by
  cases h <;> rfl

theorem Acted.resync_eq (h : t.Acted t') : t'.controller.resync = t.controller.resync := by
  cases h with
  | turned c notices hqueue hturn => exact hturn.resync_eq
  | delivered | stopped | nothing => rfl

/-! ### What a session keeps -/

theorem acts_stay (t : Session σ) (n : Nat) :
    (t.after (List.replicate n .act)).now = t.now ∧
      (t.after (List.replicate n .act)).written = t.written := by
  induction n generalizing t with
  | zero => exact ⟨rfl, rfl⟩
  | succ n ih =>
    obtain ⟨hnow, hwritten⟩ := ih t.act
    exact ⟨hnow.trans t.acted.now_eq, hwritten.trans t.acted.written_eq⟩

theorem written_le_move (t : Session σ) (m : Move σ) : t.written ≤ (t.move m).written := by
  cases m with
  | act => exact Nat.le_of_eq t.acted.written_eq.symm
  | call call => exact Nat.le_add_right _ _
  | register | change | start | stop | wait => exact Nat.le_refl _

theorem written_le_after (t : Session σ) (moves : List (Move σ)) :
    t.written ≤ (t.after moves).written := by
  apply after_of_move (P := fun u => t.written ≤ u.written) _ (Nat.le_refl _) moves
  exact fun u m hu => Nat.le_trans hu (u.written_le_move m)

theorem written_le_of_mem_moments {m : Session σ} {moves : List (Move σ)}
    (hm : m ∈ t.moments moves) : m.written ≤ (t.after moves).written := by
  induction moves generalizing t with
  | nil => exact List.mem_singleton.mp hm ▸ Nat.le_refl _
  | cons first moves ih =>
    rcases List.mem_cons.mp hm with rfl | hm
    · exact m.written_le_after (first :: moves)
    · exact ih hm

theorem resync_move (t : Session σ) (m : Move σ) :
    (t.move m).controller.resync = t.controller.resync := by
  cases m with
  | act => exact t.acted.resync_eq
  | call call =>
    obtain ⟨store, hcall⟩ := t.controller.perform_eq call
    rw [move, hcall]
  | start =>
    rw [move, Controller.start]
    split <;> rfl
  | register | change | stop | wait => rfl

theorem resync_after (t : Session σ) (moves : List (Move σ)) :
    (t.after moves).controller.resync = t.controller.resync := by
  apply after_of_move (P := fun u => u.controller.resync = t.controller.resync) _ rfl moves
  exact fun u m hu => (u.resync_move m).trans hu

/-! ### Before the start -/

theorem Unstarted.act_eq (h : t.Unstarted) : t.act = t := by
  have hwaiting : t.isWaiting = false := by rw [isWaiting, h.phase]
  have hturn : t.controller.turn t.now = none := Controller.turn_eq_none_iff.mpr (.inl h.phase)
  rw [Session.act, h.queue, hwaiting, Bool.and_false, hturn]
  rfl

theorem Unstarted.move (h : t.Unstarted) {m : Move σ} (hm : m ≠ .start) :
    (t.move m).Unstarted := by
  cases m with
  | register type =>
    refine ⟨h.phase, h.stopping, h.snapshot, fun other g hg => ?_, h.queue, h.delivered⟩
    rw [Session.move, Controller.handlersOf_register] at hg
    rcases List.mem_append.mp hg with hg | hg
    · exact Nat.lt_succ_of_lt (h.numbered other g hg)
    · split at hg
      · rw [List.mem_singleton.mp hg]
        exact Nat.lt_succ_self _
      · cases hg
  | change store =>
    exact ⟨h.phase, h.stopping, h.snapshot, h.numbered, h.queue, h.delivered⟩
  | call call =>
    obtain ⟨store, hcall⟩ := t.controller.perform_eq call
    have hcontroller : (t.move (.call call)).controller = _ := hcall
    refine ⟨?_, h.stopping, ?_, ?_, h.queue, h.delivered⟩
    all_goals rw [hcontroller]
    · exact h.phase
    · exact h.snapshot
    · exact h.numbered
  | start => exact absurd rfl hm
  | stop =>
    have hidle : (t.controller.phase != .idle) = false := by rw [h.phase]; rfl
    exact ⟨h.phase, hidle, h.snapshot, h.numbered, h.queue, h.delivered⟩
  | wait time => exact ⟨h.phase, h.stopping, h.snapshot, h.numbered, h.queue, h.delivered⟩
  | act =>
    rw [Session.move, h.act_eq]
    exact h

theorem Unstarted.after (h : t.Unstarted) {moves : List (Move σ)} (hmoves : .start ∉ moves) :
    (t.after moves).Unstarted := by
  induction moves generalizing t with
  | nil => exact h
  | cons m moves ih =>
    have hm : m ≠ .start := fun heq => hmoves (heq ▸ List.mem_cons_self)
    exact ih (h.move hm) fun hmem => hmoves (List.mem_cons_of_mem m hmem)

/-! ### Settling as a session -/

theorem after_deliveries (queue : List Notice) (t : Session σ) (h : t.queue = queue) :
    t.after (List.replicate queue.length .act) =
      { t with queue := [], delivered := t.delivered ++ queue } := by
  induction queue generalizing t with
  | nil =>
    change t = _
    rw [List.append_nil, ← h]
  | cons n queue ih =>
    have hact : t.move .act = { t with queue, delivered := t.delivered ++ [n] } := act_of_queue h
    have hrest := ih (t.move .act) (by rw [hact])
    rw [hact, List.append_assoc] at hrest
    rw [List.length_cons, List.replicate_succ, after, List.foldl_cons, hact]
    exact hrest

/-- Turns that are taken in one go are acts of a session. -/
theorem exists_acts_turns (fuel : Nat) (t : Session σ) (hqueue : t.queue = [])
    (hstop : t.stopping = false) :
    ∃ n, t.after (List.replicate n .act) =
      { t with
        controller := (t.controller.turns fuel t.now).1
        delivered := t.delivered ++ (t.controller.turns fuel t.now).2 } := by
  induction fuel generalizing t with
  | zero => exact ⟨0, by rw [Controller.turns, List.append_nil]; rfl⟩
  | succ fuel ih =>
    cases hturn : t.controller.turn t.now with
    | none => exact ⟨0, by simp only [Controller.turns, hturn, List.append_nil]; rfl⟩
    | some next =>
      obtain ⟨c, notices⟩ := next
      have hact : t.move .act = { t with controller := c, queue := notices } :=
        act_of_turn hqueue hstop hturn
      have hdeliver := after_deliveries notices (t.move .act) (by rw [hact])
      obtain ⟨n, hn⟩ := ih ((t.move .act).after (List.replicate notices.length .act))
        (by rw [hdeliver]) (by rw [hdeliver, hact]; exact hstop)
      refine ⟨1 + (notices.length + n), ?_⟩
      rw [← List.replicate_append_replicate, ← List.replicate_append_replicate, after_append,
        after_append]
      rw [show t.after (List.replicate 1 .act) = t.move .act from rfl, hn, hdeliver, hact]
      simp only [Controller.turns, hturn, hqueue, List.append_assoc]

end Session

end MeshControl.Config
