import MeshControl.Config.Outage
import MeshControl.Proofs.Config.Revisions
import MeshControl.Proofs.Config.Session
import MeshControl.Proofs.Config.Snapshot

/-!
Reading through a controller. Whatever happens around it, what it lists of a type is strictly
increasing by key, so halving the range finds a key exactly where the list has it. The order comes
from the pass that filled the snapshot and not from the store, whose lists need only be free of
repeated keys.
-/
namespace MeshControl.Config

/-- No list that a store answers now repeats a key. -/
def ListsNoKeyTwice {σ : Type} [Store σ] (s : σ) : Prop :=
  ∀ type l, (Store.list s type).1 = .ok l → (l.map (·.key)).Nodup

namespace Controller

variable {σ : Type} {c c' : Controller σ}

/-- Every type is kept in the order of keys. -/
def KeepsOrder (c : Controller σ) : Prop := ∀ type, SortedByKey (c.known type)

theorem keepsOrder_new (store : σ) (resync : Nat) : (new store resync).KeepsOrder :=
  fun _ => .nil

/-- What is not a list that came back leaves the snapshot, and so its order, alone. -/
theorem KeepsOrder.of_same (h : c.KeepsOrder) (hsnapshot : c'.snapshot = c.snapshot) :
    c'.KeepsOrder := by
  intro type
  rw [known, hsnapshot]
  exact h type

/-- A list that came back is sorted before it is kept. -/
theorem KeepsOrder.listed (h : c.KeepsOrder) {type : String} {records : List Record}
    (hkeys : (records.map (·.key)).Nodup)
    (hsnapshot : c'.snapshot = c.snapshot.insert type (Fragile.sortByKey records)) :
    c'.KeepsOrder := by
  intro other
  rw [known, hsnapshot, Table.find?_insert]
  split
  · exact sortedByKey_sortByKey hkeys
  · exact h other

/-- A key is found exactly if the type has a record of it, and then it is that record. -/
theorem KeepsOrder.get_eq_some_iff (h : c.KeepsOrder) {type key : String} {content : Message}
    {revision : Revision} :
    c.get type key = some (content, revision) ↔
      ∃ r ∈ c.known type, r.key = key ∧ r.content = content ∧ r.revision = revision := by
  simp only [get, Option.map_eq_some_iff, (h type).search_eq_some_iff, Prod.mk.injEq, and_assoc]

theorem KeepsOrder.get_eq_none_iff (h : c.KeepsOrder) {type key : String} :
    c.get type key = none ↔ ∀ r ∈ c.known type, r.key ≠ key := by
  rw [get, Option.map_eq_none_iff]
  exact (h type).search_eq_none_iff

variable [Store σ]

theorem KeepsOrder.turn (h : c.KeepsOrder) (hkeys : ListsNoKeyTwice c.store) {now : Nat}
    {notices : List Notice} (hturn : Turn now c c' notices) : c'.KeepsOrder := by
  cases hturn with
  | listed pass type rest records hphase hrest hok => exact h.listed (hkeys type records hok) rfl
  | relisted | ticked | rested | skipped | finished | woke => exact h.of_same rfl

end Controller

namespace Session

variable {σ : Type} [Store σ] {t : Session σ}

theorem Acted.keepsOrder {t' : Session σ} (hacted : t.Acted t') (h : t.controller.KeepsOrder)
    (hkeys : ListsNoKeyTwice t.controller.store) : t'.controller.KeepsOrder := by
  cases hacted with
  | turned c notices hqueue hturn => exact h.turn hkeys hturn
  | delivered | stopped | nothing => exact h.of_same rfl

/-- Only an act can change what is kept, and only by a list that the store answers then. -/
theorem keepsOrder_move (h : t.controller.KeepsOrder) (hkeys : ListsNoKeyTwice t.controller.store)
    (m : Move σ) : (t.move m).controller.KeepsOrder := by
  cases m with
  | act => exact t.acted.keepsOrder h hkeys
  | call call =>
    obtain ⟨store, hcall⟩ := t.controller.perform_eq call
    exact h.of_same (by rw [move, hcall])
  | start =>
    refine h.of_same ?_
    rw [move, Controller.start]
    split <;> rfl
  | register | change | stop | wait => exact h.of_same rfl

theorem keepsOrder_after {moves : List (Move σ)} (h : t.controller.KeepsOrder)
    (hkeys : ∀ m ∈ t.moments moves, ListsNoKeyTwice m.controller.store) :
    (t.after moves).controller.KeepsOrder := by
  induction moves generalizing t with
  | nil => exact h
  | cons m moves ih =>
    obtain ⟨hfirst, hrest⟩ := List.forall_mem_cons.mp hkeys
    exact ih (keepsOrder_move h hfirst m) hrest

/-- Whatever the moves of a session are, if no list of the store ever repeats a key: each type is
listed in strict order of keys, a key is found exactly if the list has a record of it, with the
content and the revision of that record, and otherwise nothing is found. -/
theorem reads_agree (store : σ) (resync now : Nat) (moves : List (Move σ))
    (hkeys : ∀ m ∈ (new store resync now).moments moves, ListsNoKeyTwice m.controller.store)
    (type key : String) :
    let t := (new store resync now).after moves
    ∃ l, (Store.list t.controller type).1 = .ok l ∧ SortedByKey l ∧
      (∀ content revision, Store.get t.controller type key = some (content, revision) ↔
        ∃ r ∈ l, r.key = key ∧ r.content = content ∧ r.revision = revision) ∧
      (Store.get t.controller type key = none ↔ ∀ r ∈ l, r.key ≠ key) := by
  intro t
  have h : t.controller.KeepsOrder :=
    keepsOrder_after (Controller.keepsOrder_new store resync) hkeys
  exact ⟨t.controller.known type, rfl, h type, fun _ _ => h.get_eq_some_iff, h.get_eq_none_iff⟩

/-! ### A store that lists without order -/

/-- Two notes that were laid over an empty store, the later key first. -/
def shelf : Fragile Memory where
  store := Memory.new Memory.noteCatalog
  overlay := [⟨"note", "b", "1", Memory.noteMessage 1⟩, ⟨"note", "a", "2", Memory.noteMessage 2⟩]
  outages := []
  sorted := false

theorem listsNoKeyTwice_shelf : ListsNoKeyTwice shelf := by
  intro type l hl
  obtain rfl : shelf.overlay.filter (·.type == type) = l := Except.ok.inj hl
  have hoverlay : (shelf.overlay.map (·.key)).Nodup := by decide
  exact (List.filter_sublist.map _).nodup hoverlay

/-- The first pass begins and lists the notes. -/
def shelved : List (Move (Fragile Memory)) := [.start, .act, .act]

theorem reads_agree_of_shelf :
    (Store.list shelf "note").1 = .ok shelf.overlay ∧
      ∃ l, (Store.list ((new shelf 1000 0).after shelved).controller "note").1 = .ok l ∧
        SortedByKey l ∧ l.Perm shelf.overlay ∧
        Store.get ((new shelf 1000 0).after shelved).controller "note" "a" =
          some (Memory.noteMessage 2, "2") := by
  have hstores : ∀ m ∈ (new shelf 1000 0).moments shelved, m.controller.store = shelf := by
    simp only [shelved, moments, List.forall_mem_cons]
    exact ⟨rfl, rfl, rfl, rfl, fun _ h => absurd h List.not_mem_nil⟩
  obtain ⟨l, hl, hsorted, hget, -⟩ := reads_agree shelf 1000 0 shelved
    (fun m hm => hstores m hm ▸ listsNoKeyTwice_shelf) "note" "a"
  have hknown : l = Fragile.sortByKey shelf.overlay := (Except.ok.inj hl).symm.trans rfl
  have hperm : l.Perm shelf.overlay := hknown ▸ perm_sortByKey shelf.overlay
  refine ⟨rfl, l, hl, hsorted, hperm, (hget _ _).mpr ⟨shelf.overlay[1], ?_, rfl, rfl, rfl⟩⟩
  exact hperm.mem_iff.mpr (List.getElem_mem _)

end Session

end MeshControl.Config
