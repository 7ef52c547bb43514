import MeshControl.Proofs.Config.Replay
import MeshControl.Proofs.Config.Revisions
import MeshControl.Proofs.Config.Session

/-!
What handlers can rely on. A handler that was registered before the start and keeps a table of what
it is told holds the snapshot of its type whenever all notices are delivered, and every notice is
true of the snapshot and fits the table when it comes.
-/
namespace MeshControl.Config

/-- Each event fits what its reader holds after those before it. -/
def AllFit (events : List (Record × Event)) : Prop :=
  ∀ before e after, events = before ++ e :: after → Fits (replay before) e

theorem replay_concat (events : List (Record × Event)) (e : Record × Event) :
    replay (events ++ [e]) = follow (replay events) e := by
  rw [replay, List.foldl_append]
  rfl

theorem allFit_nil : AllFit [] := by
  intro before e after h
  exact absurd h (by simp)

theorem AllFit.concat {events : List (Record × Event)} {e : Record × Event}
    (h : AllFit events) (hfits : Fits (replay events) e) : AllFit (events ++ [e]) := by
  intro before f after heq
  rcases List.eq_nil_or_concat after with rfl | ⟨after, g, rfl⟩
  · obtain ⟨rfl, hlast⟩ := List.append_inj' heq rfl
    rw [← List.head_eq_of_cons_eq hlast]
    exact hfits
  · rw [List.concat_eq_append, ← List.cons_append, ← List.append_assoc] at heq
    exact h before f after (List.append_inj' heq rfl).1

namespace Session

variable {σ : Type} {handler : Nat} {type : String} {t : Session σ}

theorem toldTo_append (handler : Nat) (notices more : List Notice) :
    toldTo handler (notices ++ more) = toldTo handler notices ++ toldTo handler more := by
  simp only [toldTo, List.filter_append, List.map_append]

theorem toldTo_cons_self (n : Notice) (notices : List Notice) :
    toldTo n.handler (n :: notices) = (n.record, n.event) :: toldTo n.handler notices := by
  simp only [toldTo, List.filter_cons, beq_self_eq_true, if_true, List.map_cons]

theorem toldTo_cons_of_ne {n : Notice} (h : n.handler ≠ handler) (notices : List Notice) :
    toldTo handler (n :: notices) = toldTo handler notices := by
  have hother : (n.handler == handler) = false := beq_eq_false_iff_ne.mpr h
  simp only [toldTo, List.filter_cons, hother, Bool.false_eq_true, if_false]

/-- A handler is told the events of a type as often as it is registered for it. -/
theorem toldTo_notices (c : Controller σ) (handler : Nat) (type : String) (now : Nat)
    (events : List (Record × Event)) :
    toldTo handler (c.notices type now events) =
      events.flatMap fun e => ((c.handlersOf type).filter (· == handler)).map fun _ => e := by
  induction events with
  | nil => rfl
  | cons e events ih =>
    rw [Controller.notices, List.flatMap_cons, toldTo_append, List.flatMap_cons]
    congr 1
    rw [toldTo, List.filter_map, List.map_map]
    rfl

/-- A handler of a type, and of no other, is being led to the snapshot of that type. -/
structure Informs (t : Session σ) (handler : Nat) (type : String) : Prop where
  listens : ∀ type', (t.controller.handlersOf type').filter (· == handler) =
    if type' = type then [handler] else []
  numbered : ∀ type', ∀ g ∈ t.controller.handlersOf type', g < t.registered
  sorted : ∀ type', SortedByKey (t.controller.known type')
  fitted : AllFit (t.eventsTo handler)
  leads : Leads (t.controller.known type) (replay (t.eventsTo handler)) (toldTo handler t.queue)

/-- Nothing of what handlers rely on is touched. -/
theorem Informs.of_same {t' : Session σ} (h : t.Informs handler type)
    (hhandlers : t'.controller.handlers = t.controller.handlers)
    (hsnapshot : t'.controller.snapshot = t.controller.snapshot)
    (hregistered : t'.registered = t.registered) (hqueue : t'.queue = t.queue)
    (hdelivered : t'.delivered = t.delivered) : t'.Informs handler type where
  listens type' := by
    rw [Controller.handlersOf, hhandlers]
    exact h.listens type'
  numbered type' g hg := by
    rw [Controller.handlersOf, hhandlers] at hg
    exact hregistered ▸ h.numbered type' g hg
  sorted type' := by
    rw [Controller.known, hsnapshot]
    exact h.sorted type'
  fitted := by
    rw [eventsTo, hdelivered]
    exact h.fitted
  leads := by
    rw [Controller.known, hsnapshot, eventsTo, hdelivered, hqueue]
    exact h.leads

theorem Informs.lt_registered (h : t.Informs handler type) : handler < t.registered := by
  have hmem : handler ∈ (t.controller.handlersOf type).filter (· == handler) := by
    rw [h.listens, if_pos rfl]
    exact List.mem_singleton.mpr rfl
  exact h.numbered type handler (List.mem_filter.mp hmem).1

/-- The number of a new handler is not that of an earlier one. -/
theorem Informs.register (h : t.Informs handler type) (type' : String) :
    Informs
      { t with
        controller := t.controller.register type' t.registered
        registered := t.registered + 1 } handler type where
  listens other := by
    have hnew : (t.registered == handler) = false :=
      beq_eq_false_iff_ne.mpr (Nat.ne_of_gt h.lt_registered)
    rw [Controller.handlersOf_register, List.filter_append, h.listens]
    split <;> split <;> simp [hnew]
  numbered other g hg := by
    rw [Controller.handlersOf_register] at hg
    rcases List.mem_append.mp hg with hg | hg
    · exact Nat.lt_succ_of_lt (h.numbered other g hg)
    · split at hg
      · rw [List.mem_singleton.mp hg]
        exact Nat.lt_succ_self _
      · cases hg
  sorted := h.sorted
  fitted := h.fitted
  leads := h.leads

/-- The handler is told what is found in its type, once, and nothing of other types. -/
theorem Informs.toldTo_notices (h : t.Informs handler type) (type' : String)
    (events : List (Record × Event)) :
    toldTo handler (t.controller.notices type' t.now events) =
      if type' = type then events else [] := by
  rw [Session.toldTo_notices, h.listens]
  split <;> simp

/-- The notice that is delivered is the next step of the way to the snapshot. -/
theorem Informs.deliver (h : t.Informs handler type) {n : Notice} {queue : List Notice}
    (hqueue : t.queue = n :: queue) :
    Informs { t with queue, delivered := t.delivered ++ [n] } handler type := by
  have hleads := h.leads
  rw [hqueue] at hleads
  by_cases hto : n.handler = handler
  · subst hto
    rw [toldTo_cons_self] at hleads
    have htold : toldTo n.handler (t.delivered ++ [n]) =
        t.eventsTo n.handler ++ [(n.record, n.event)] := by
      rw [toldTo_append, toldTo_cons_self]
      rfl
    cases hleads with
    | next htrue hfits hrest =>
      refine ⟨h.listens, h.numbered, h.sorted, ?_, ?_⟩
      · rw [eventsTo, htold]
        exact h.fitted.concat hfits
      · rw [eventsTo, htold, replay_concat]
        exact hrest
  · rw [toldTo_cons_of_ne hto] at hleads
    have htold : toldTo handler (t.delivered ++ [n]) = t.eventsTo handler := by
      rw [toldTo_append, toldTo_cons_of_ne hto]
      exact List.append_nil _
    refine ⟨h.listens, h.numbered, h.sorted, ?_, ?_⟩
    · rw [eventsTo, htold]
      exact h.fitted
    · rw [eventsTo, htold]
      exact hleads

/-- A list that came back replaces the snapshot of its type, and the sweep leads there. -/
theorem Informs.listed (h : t.Informs handler type) (hqueue : t.queue = []) {type' : String}
    {records : List Record} (hkeys : (records.map (·.key)).Nodup) {c : Controller σ}
    (hhandlers : c.handlers = t.controller.handlers)
    (hsnapshot : c.snapshot = t.controller.snapshot.insert type' (Fragile.sortByKey records)) :
    Informs
      { t with
        controller := c
        queue := t.controller.notices type' t.now
          (sweep (t.controller.known type') (Fragile.sortByKey records)) } handler type := by
  have hsorted := sortedByKey_sortByKey hkeys
  have hknown : ∀ other, c.known other =
      if other = type' then Fragile.sortByKey records else t.controller.known other := by
    intro other
    rw [Controller.known, hsnapshot, Table.find?_insert]
    split <;> rfl
  refine ⟨?_, ?_, ?_, h.fitted, ?_⟩
  · intro other
    rw [Controller.handlersOf, hhandlers]
    exact h.listens other
  · intro other g hg
    rw [Controller.handlersOf, hhandlers] at hg
    exact h.numbered other g hg
  · intro other
    rw [hknown]
    split
    · exact hsorted
    · exact h.sorted other
  · have hleads := h.leads
    rw [hqueue] at hleads
    rw [hknown, h.toldTo_notices]
    by_cases htype : type' = type
    · subst htype
      rw [if_pos rfl, if_pos rfl]
      cases hleads with
      | done hholds => exact leads_sweep hholds (h.sorted type') hsorted
    · rw [if_neg (Ne.symm htype), if_neg htype]
      exact hleads

/-- What is found under the key of an event once the event is true. -/
def found? (e : Record × Event) : Option (Message × Revision) :=
  match e.2 with
  | .added | .updated => some (e.1.content, e.1.revision)
  | .deleted => none

theorem get_of_isTrue {c : Controller σ} {e : Record × Event} (hsorted : SortedByKey (c.known type))
    (htrue : IsTrue (c.known type) e) : c.get type e.1.key = found? e := by
  obtain ⟨r, event⟩ := e
  rw [Controller.get]
  cases event with
  | added | updated =>
    rw [hsorted.search_eq_some_iff.mpr ⟨htrue, rfl⟩]
    rfl
  | deleted =>
    rw [hsorted.search_eq_none_iff.mpr htrue]
    rfl

/-! ### Every move -/

variable [Store σ]

section

variable (hkeys : ∀ (s : σ) type l, (Store.list s type).1 = .ok l → (l.map (·.key)).Nodup)

include hkeys

theorem Informs.acted (h : t.Informs handler type) {t' : Session σ} (hacted : t.Acted t') :
    t'.Informs handler type := by
  cases hacted with
  | delivered n queue hqueue => exact h.deliver hqueue
  | stopped => exact h.of_same rfl rfl rfl rfl rfl
  | nothing => exact h
  | turned c notices hqueue hturn =>
    cases hturn with
    | listed pass type' rest records hphase hrest hok =>
      exact h.listed hqueue (hkeys _ _ _ hok) rfl rfl
    | relisted | ticked | rested | skipped | finished | woke =>
      exact h.of_same rfl rfl rfl hqueue.symm rfl

theorem Informs.move (h : t.Informs handler type) (m : Move σ) :
    (t.move m).Informs handler type := by
  cases m with
  | register type' => exact h.register type'
  | change store => exact h.of_same rfl rfl rfl rfl rfl
  | call call =>
    obtain ⟨store, hcall⟩ := t.controller.perform_eq call
    exact h.of_same (by rw [Session.move, hcall]) (by rw [Session.move, hcall]) rfl rfl rfl
  | start =>
    by_cases hidle : t.controller.phase = .idle
    · have hstart := Controller.start_of_idle hidle t.now
      exact h.of_same (by rw [Session.move, hstart]) (by rw [Session.move, hstart]) rfl rfl rfl
    · have hstart := Controller.start_of_running hidle t.now
      exact h.of_same (by rw [Session.move, hstart]) (by rw [Session.move, hstart]) rfl rfl rfl
  | stop => exact h.of_same rfl rfl rfl rfl rfl
  | wait time => exact h.of_same rfl rfl rfl rfl rfl
  | act => exact h.acted hkeys t.acted

theorem Informs.after (h : t.Informs handler type) (moves : List (Move σ)) :
    (t.after moves).Informs handler type :=
  after_of_move (P := fun u => u.Informs handler type) (fun _ m hu => hu.move hkeys m) h moves

end

/-- A handler that is registered before the start begins with an empty table, as the snapshot is. -/
theorem Unstarted.informs (h : t.Unstarted) (type : String) :
    (t.move (.register type)).Informs t.registered type := by
  have hregistered := h.move (m := .register type) (by simp)
  have hknown : ∀ type', (t.move (.register type)).controller.known type' = [] := by
    intro type'
    rw [Controller.known, hregistered.snapshot, Table.find?_empty]
    rfl
  have htold : (t.move (.register type)).eventsTo t.registered = [] := by
    rw [eventsTo, hregistered.delivered]
    rfl
  refine ⟨fun other => ?_, hregistered.numbered, fun type' => ?_, ?_, ?_⟩
  · have hothers : (t.controller.handlersOf other).filter (· == t.registered) = [] := by
      refine List.filter_eq_nil_iff.mpr fun g hg => ?_
      rw [beq_iff_eq]
      exact Nat.ne_of_lt (h.numbered other g hg)
    rw [Session.move, Controller.handlersOf_register, List.filter_append, hothers, List.nil_append]
    split <;> simp
  · rw [hknown]
    exact .nil
  · rw [htold]
    exact allFit_nil
  · rw [htold, hknown, hregistered.queue]
    exact .done .nil

/-- Whatever the moves of a session are: what the handler was told replays to the snapshot whenever
no notice is under way, each event fitted what was told before it, and while a notice is under way
the controller already gives what it says. -/
theorem events_replay_to_snapshot
    (hkeys : ∀ (s : σ) type l, (Store.list s type).1 = .ok l → (l.map (·.key)).Nodup)
    (store : σ) (resync now : Nat) (before after : List (Move σ)) (type : String)
    (hbefore : .start ∉ before) :
    let handler := ((new store resync now).after before).registered
    let t := (new store resync now).after (before ++ .register type :: after)
    (t.queue = [] → ∃ l, (Store.list t.controller type).1 = .ok l ∧
      Holds (replay (t.eventsTo handler)).toList l) ∧
    AllFit (t.eventsTo handler) ∧
    ∀ n queue, t.queue = n :: queue → n.handler = handler →
      Store.get t.controller type n.record.key = found? (n.record, n.event) := by
  intro handler t
  have hstart := ((unstarted_new store resync now).after hbefore).informs type
  have h : t.Informs handler type := by
    have hafter := hstart.after hkeys after
    rwa [show t = _ from after_append _ before (.register type :: after)]
  refine ⟨fun hqueue => ⟨t.controller.known type, rfl, ?_⟩, h.fitted, fun n queue hqueue hto => ?_⟩
  · have hleads := h.leads
    rw [hqueue] at hleads
    cases hleads with
    | done hholds => exact hholds
  · have hleads := h.leads
    rw [hqueue, ← hto, toldTo_cons_self] at hleads
    cases hleads with
    | next htrue => exact get_of_isTrue (h.sorted type) htrue

/-! ### A store in memory -/

theorem nodup_keys_of_list (m : Memory) (type : String) (l : List Record)
    (h : (Store.list m type).1 = .ok l) : (l.map (·.key)).Nodup := by
  have hl : m.list type = l := Except.ok.inj h
  rw [← hl, Memory.list, List.map_map]
  exact List.pairwise_map.mpr ((m.ofType type).sorted.imp String.ne_of_lt)

/-- A note is posted through the controller, and other hands replace it later. -/
def noteMoves : List (Move Memory) :=
  [.start, .act, .act, .act, .call (.post (Memory.noteMessage 1)), .act, .act, .act, .act,
    .change (afterCalls (Memory.new Memory.noteCatalog)
      [.post (Memory.noteMessage 1), .put (Memory.noteMessage 2) "1"]),
    .wait 1000, .act, .act, .act]

def noted : Session Memory :=
  (new (Memory.new Memory.noteCatalog) 1000 0).after (.register "note" :: noteMoves)

theorem events_replay_to_snapshot_of_noted :
    noted.queue = [] ∧ (noted.eventsTo 0).map (·.2) = [.added, .updated] ∧
      ∃ l, (Store.list noted.controller "note").1 = .ok l ∧
        Holds (replay (noted.eventsTo 0)).toList l := by
  have hqueue : noted.queue = [] := List.isEmpty_iff.mp (by decide +kernel)
  have hreplay := events_replay_to_snapshot nodup_keys_of_list (Memory.new Memory.noteCatalog)
    1000 0 [] noteMoves "note" List.not_mem_nil
  exact ⟨hqueue, by decide +kernel, hreplay.1 hqueue⟩

end Session

end MeshControl.Config
