import Mathlib.Data.List.Forall2
import MeshControl.Proofs.Config.Equality
import MeshControl.Proofs.Config.Snapshot

/-!
What a reader makes of events. Events are applied one by one to a table of records; those that a
sweep finds between two lists take a reader of the old list to the new one, and each of them fits
what the reader holds when it comes.
-/
namespace MeshControl

namespace Entries

variable {α : Type} {k : String} {a b : List (String × α)}

theorem put_append (h : ∀ e ∈ a, e.1 < k) (v : α) :
    put textLt k v (a ++ b) = a ++ put textLt k v b := by
  induction a with
  | nil => rfl
  | cons e a ih =>
    have hlt : e.1 < k := h e List.mem_cons_self
    have hrest := ih fun e' he' => h e' (List.mem_cons_of_mem _ he')
    have hkeep : textLt k e.1 = false := decide_eq_false (String.lt_asymm hlt)
    have hne : k ≠ e.1 := fun heq => String.lt_irrefl k (heq ▸ hlt)
    simp only [List.cons_append, put, hkeep, hne, hrest, Bool.false_eq_true, if_false]

theorem put_of_lt (h : ∀ e ∈ b, k < e.1) (v : α) : put textLt k v b = (k, v) :: b := by
  cases b with
  | nil => rfl
  | cons e b =>
    have hbefore : textLt k e.1 = true := decide_eq_true (h e List.mem_cons_self)
    simp only [put, hbefore, if_true]

theorem find?_append (h : ∀ e ∈ a, e.1 < k) : find? k (a ++ b) = find? k b := by
  induction a with
  | nil => rfl
  | cons e a ih =>
    have hne : k ≠ e.1 := fun heq => String.lt_irrefl k (heq ▸ h e List.mem_cons_self)
    rw [List.cons_append, find?, if_neg hne, ih fun e' he' => h e' (List.mem_cons_of_mem _ he')]

theorem find?_of_lt (h : ∀ e ∈ b, k < e.1) : find? k b = none := by
  induction b with
  | nil => rfl
  | cons e b ih =>
    have hne : k ≠ e.1 := fun heq => String.lt_irrefl k (heq ▸ h e List.mem_cons_self)
    rw [find?, if_neg hne, ih fun e' he' => h e' (List.mem_cons_of_mem _ he')]

theorem filter_ne_append_cons (v : α) (ha : ∀ e ∈ a, e.1 < k) (hb : ∀ e ∈ b, k < e.1) :
    (a ++ (k, v) :: b).filter (fun e => e.1 != k) = a ++ b := by
  have hleft : a.filter (fun e => e.1 != k) = a :=
    List.filter_eq_self.mpr fun e he => bne_iff_ne.mpr fun heq =>
      String.lt_irrefl k (heq ▸ ha e he)
  have hright : b.filter (fun e => e.1 != k) = b :=
    List.filter_eq_self.mpr fun e he => bne_iff_ne.mpr fun heq =>
      String.lt_irrefl k (heq ▸ hb e he)
  rw [List.filter_append, hleft, List.filter_cons_of_neg (by simp), hright]

end Entries

namespace Config

/-- What a reader holds after one more event. -/
def follow (m : Table Record) (e : Record × Event) : Table Record :=
  match e.2 with
  | .added | .updated => m.insert e.1.key e.1
  | .deleted => m.erase e.1.key

/-- What a reader holds who was told some events from the beginning. -/
def replay (events : List (Record × Event)) : Table Record := events.foldl follow Table.empty

/-- Only what is not held can be added, and only what is held can be updated or deleted. -/
def Fits (m : Table Record) (e : Record × Event) : Prop :=
  match e.2 with
  | .added => m.find? e.1.key = none
  | .updated | .deleted => (m.find? e.1.key).isSome = true

/-- A table holds the records of a list, up to what the comparison of records cannot tell. -/
def Holds (entries : List (String × Record)) (l : List Record) : Prop :=
  List.Forall₂ (fun e r => e.1 = r.key ∧ e.2.Alike r) entries l

/-- What an event says is so in a list: the record is there, or none has its key. -/
def IsTrue (l : List Record) (e : Record × Event) : Prop :=
  match e.2 with
  | .added | .updated => e.1 ∈ l
  | .deleted => ∀ r ∈ l, r.key ≠ e.1.key

/-- Events that are true of a list, fit one after another, and take a reader to the list. -/
inductive Leads (target : List Record) : Table Record → List (Record × Event) → Prop
  | done {m : Table Record} (h : Holds m.entries target) : Leads target m []
  | next {m : Table Record} {e : Record × Event} {events : List (Record × Event)}
      (htrue : IsTrue target e) (hfits : Fits m e) (hrest : Leads target (follow m e) events) :
      Leads target m (e :: events)

theorem Holds.map_fst {entries : List (String × Record)} {l : List Record}
    (h : Holds entries l) : entries.map (·.1) = l.map (·.key) := by
  induction h with
  | nil => rfl
  | cons h _ ih => rw [List.map_cons, List.map_cons, h.1, ih]

theorem Holds.exists_key {entries : List (String × Record)} {l : List Record}
    (h : Holds entries l) {e : String × Record} (he : e ∈ entries) : ∃ r ∈ l, r.key = e.1 := by
  have hkey : e.1 ∈ l.map (·.key) := h.map_fst ▸ List.mem_map_of_mem he
  exact List.mem_map.mp hkey

theorem Holds.lt_of_lt {a : List (String × Record)} {l : List Record} {k : String}
    (h : Holds a l) (hl : ∀ r ∈ l, r.key < k) : ∀ e ∈ a, e.1 < k := by
  intro e he
  obtain ⟨r, hr, heq⟩ := h.exists_key he
  exact heq ▸ hl r hr

theorem Holds.gt_of_gt {b : List (String × Record)} {l : List Record} {k : String}
    (h : Holds b l) (hl : ∀ r ∈ l, k < r.key) : ∀ e ∈ b, k < e.1 := by
  intro e he
  obtain ⟨r, hr, heq⟩ := h.exists_key he
  exact heq ▸ hl r hr

theorem Holds.append {a b : List (String × Record)} {l l' : List Record} (ha : Holds a l)
    (hb : Holds b l') : Holds (a ++ b) (l ++ l') := List.rel_append ha hb

theorem Holds.split {entries : List (String × Record)} {l l' : List Record}
    (h : Holds entries (l ++ l')) : ∃ a b, entries = a ++ b ∧ Holds a l ∧ Holds b l' :=
  ⟨_, _, (List.take_append_drop l.length entries).symm, List.forall₂_take_append entries l l' h,
    List.forall₂_drop_append entries l l' h⟩

theorem Holds.split_cons {entries : List (String × Record)} {l l' : List Record} {r : Record}
    (h : Holds entries (l ++ r :: l')) :
    ∃ a b held, entries = a ++ (r.key, held) :: b ∧ Holds a l ∧ held.Alike r ∧ Holds b l' := by
  obtain ⟨a, b, rfl, ha, hb⟩ := h.split
  cases hb with
  | @cons e _ b _ he hb => exact ⟨a, b, e.2, by rw [← he.1], ha, he.2, hb⟩

/-! ### One event -/

section

variable {m : Table Record} {l l' : List Record} {o r : Record}

theorem added_follows (h : Holds m.entries (l ++ l')) (hl : ∀ s ∈ l, s.key < r.key)
    (hl' : ∀ s ∈ l', r.key < s.key) :
    Fits m (r, .added) ∧ Holds (follow m (r, .added)).entries (l ++ r :: l') := by
  obtain ⟨a, b, hm, ha, hb⟩ := h.split
  constructor
  · change Entries.find? r.key m.entries = none
    rw [hm, Entries.find?_append (ha.lt_of_lt hl), Entries.find?_of_lt (hb.gt_of_gt hl')]
  · change Holds (Entries.put textLt r.key r m.entries) (l ++ r :: l')
    rw [hm, Entries.put_append (ha.lt_of_lt hl), Entries.put_of_lt (hb.gt_of_gt hl')]
    exact ha.append (.cons ⟨rfl, .refl r⟩ hb)

theorem updated_follows (h : Holds m.entries (l ++ o :: l')) (hkey : o.key = r.key)
    (hl : ∀ s ∈ l, s.key < r.key) :
    Fits m (r, .updated) ∧ Holds (follow m (r, .updated)).entries (l ++ r :: l') := by
  obtain ⟨a, b, held, hm, ha, -, hb⟩ := h.split_cons
  rw [hkey] at hm
  constructor
  · change (Entries.find? r.key m.entries).isSome = true
    rw [hm, Entries.find?_append (ha.lt_of_lt hl), Entries.find?, if_pos rfl]
    rfl
  · have hsame : textLt r.key r.key = false := decide_eq_false (String.lt_irrefl r.key)
    change Holds (Entries.put textLt r.key r m.entries) (l ++ r :: l')
    rw [hm, Entries.put_append (ha.lt_of_lt hl), Entries.put, hsame, if_neg Bool.false_ne_true,
      if_pos rfl]
    exact ha.append (.cons ⟨rfl, .refl r⟩ hb)

theorem deleted_follows (h : Holds m.entries (l ++ r :: l')) (hl : ∀ s ∈ l, s.key < r.key)
    (hl' : ∀ s ∈ l', r.key < s.key) :
    Fits m (r, .deleted) ∧ Holds (follow m (r, .deleted)).entries (l ++ l') := by
  obtain ⟨a, b, held, hm, ha, -, hb⟩ := h.split_cons
  constructor
  · change (Entries.find? r.key m.entries).isSome = true
    rw [hm, Entries.find?_append (ha.lt_of_lt hl), Entries.find?, if_pos rfl]
    rfl
  · change Holds (m.entries.filter fun e => e.1 != r.key) (l ++ l')
    rw [hm, Entries.filter_ne_append_cons held (ha.lt_of_lt hl) (hb.gt_of_gt hl')]
    exact ha.append hb

/-- A record that is passed over in silence is held as well as the one before it. -/
theorem Holds.replace {entries : List (String × Record)} (h : Holds entries (l ++ o :: l'))
    (hkey : o.key = r.key) (hsame : (o == r) = true) : Holds entries (l ++ r :: l') := by
  obtain ⟨a, b, held, rfl, ha, halike, hb⟩ := h.split_cons
  exact ha.append (.cons ⟨hkey, halike.trans_beq hsame⟩ hb)

end

/-! ### All events of a sweep -/

theorem sweep_nil_cons (n : Record) (new : List Record) :
    sweep [] (n :: new) = (n, .added) :: sweep [] new := by
  rw [sweep, sweep, List.map_cons]

theorem sweep_cons_nil (o : Record) (old : List Record) :
    sweep (o :: old) [] = (o, .deleted) :: sweep old [] := by
  cases old <;> simp [sweep]

/-- The keys before and after a record of a sorted list. -/
theorem SortedByKey.around {l l' : List Record} {r : Record} (h : SortedByKey (l ++ r :: l')) :
    (∀ s ∈ l, s.key < r.key) ∧ ∀ s ∈ l', r.key < s.key := by
  obtain ⟨-, htail, hacross⟩ := List.pairwise_append.mp h
  exact ⟨fun s hs => hacross s hs r List.mem_cons_self, (List.pairwise_cons.mp htail).1⟩

theorem SortedByKey.drop {l l' : List Record} {r : Record} (h : SortedByKey (l ++ r :: l')) :
    SortedByKey (l ++ l') :=
  h.sublist ((List.sublist_cons_self r l').append_left l)

theorem SortedByKey.put {l l' : List Record} {r : Record} (h : SortedByKey (l ++ l'))
    (hl : ∀ s ∈ l, s.key < r.key) (hl' : ∀ s ∈ l', r.key < s.key) :
    SortedByKey (l ++ r :: l') := by
  obtain ⟨hleft, hright, hacross⟩ := List.pairwise_append.mp h
  refine List.pairwise_append.mpr ⟨hleft, List.pairwise_cons.mpr ⟨hl', hright⟩, ?_⟩
  intro s hs t ht
  rcases List.mem_cons.mp ht with rfl | ht
  · exact hl s hs
  · exact hacross s hs t ht

/-- Whether a list is sorted is a matter of its keys. -/
theorem SortedByKey.of_keys {l l' : List Record} (h : SortedByKey l)
    (hkeys : l.map (·.key) = l'.map (·.key)) : SortedByKey l' := by
  have hpairs : (l.map (·.key)).Pairwise (· < ·) := List.pairwise_map.mpr h
  rw [hkeys] at hpairs
  exact List.pairwise_map.mp hpairs

/-- A reader of the old list is led to the new one. On the way the reader holds the first part of
the new list, which is done, and what the sweep has not yet reached of the old one. -/
theorem leads_sweep_from (old new : List Record) {done : List Record} {m : Table Record}
    (hm : Holds m.entries (done ++ old)) (hold : SortedByKey (done ++ old))
    (hnew : SortedByKey (done ++ new)) : Leads (done ++ new) m (sweep old new) := by
  match old, new with
  | [], [] =>
    rw [sweep]
    exact .done hm
  | [], n :: new =>
    obtain ⟨hdone, -⟩ := hnew.around
    have hbeyond : ∀ r ∈ ([] : List Record), n.key < r.key :=
      fun r hr => absurd hr List.not_mem_nil
    obtain ⟨hfits, hm'⟩ := added_follows hm hdone hbeyond
    have hold' := hold.put hdone hbeyond
    have htrue : IsTrue (done ++ n :: new) (n, .added) := List.mem_append_cons_self
    rw [sweep_nil_cons]
    rw [List.append_cons] at hm' hold' hnew htrue ⊢
    exact .next htrue hfits (leads_sweep_from [] new hm' hold' hnew)
  | o :: old, [] =>
    obtain ⟨hbefore, hafter⟩ := hold.around
    obtain ⟨hfits, hm'⟩ := deleted_follows hm hbefore hafter
    have htrue : IsTrue (done ++ []) (o, .deleted) := by
      intro r hr
      rw [List.append_nil] at hr
      exact String.ne_of_lt (hbefore r hr)
    rw [sweep_cons_nil]
    exact .next htrue hfits (leads_sweep_from old [] hm' hold.drop hnew)
  | o :: old, n :: new =>
    obtain ⟨hbefore, hafter⟩ := hold.around
    obtain ⟨hdone, hrest⟩ := hnew.around
    have htrue : n ∈ done ++ n :: new := List.mem_append_cons_self
    rw [sweep]
    split
    · next hkey =>
      -- The record is in both lists, so it stays at its place.
      have hold' : SortedByKey (done ++ n :: old) := hold.of_keys (by simp [hkey])
      split
      · next hsame =>
        have hm' := hm.replace hkey hsame
        rw [List.append_cons] at hm' hold' hnew ⊢
        exact leads_sweep_from old new hm' hold' hnew
      · obtain ⟨hfits, hm'⟩ := updated_follows hm hkey hdone
        rw [List.append_cons] at hm' hold' hnew htrue ⊢
        exact .next htrue hfits (leads_sweep_from old new hm' hold' hnew)
    · next hne =>
      split
      · next hlt =>
        -- The record is in the old list only.
        obtain ⟨hfits, hm'⟩ := deleted_follows hm hbefore hafter
        have hgone : IsTrue (done ++ n :: new) (o, .deleted) := by
          intro r hr
          rcases List.mem_append.mp hr with hr | hr
          · exact String.ne_of_lt (hbefore r hr)
          rcases List.mem_cons.mp hr with rfl | hr
          · exact Ne.symm hne
          · exact (String.ne_of_lt (String.lt_trans hlt (hrest r hr))).symm
        exact .next hgone hfits (leads_sweep_from old (n :: new) hm' hold.drop hnew)
      · next hnlt =>
        -- The record is in the new list only.
        have hlt : n.key < o.key := Decidable.byContradiction fun hn =>
          hne (String.le_antisymm (String.not_lt.mp hn) (String.not_lt.mp hnlt))
        have hbeyond : ∀ r ∈ o :: old, n.key < r.key := by
          intro r hr
          rcases List.mem_cons.mp hr with rfl | hr
          · exact hlt
          · exact String.lt_trans hlt (hafter r hr)
        obtain ⟨hfits, hm'⟩ := added_follows hm hdone hbeyond
        have hold' := hold.put hdone hbeyond
        rw [List.append_cons done n] at hm' hold' hnew htrue ⊢
        exact .next htrue hfits (leads_sweep_from (o :: old) new hm' hold' hnew)
termination_by old.length + new.length

theorem leads_sweep {old new : List Record} {m : Table Record} (hm : Holds m.entries old)
    (hold : SortedByKey old) (hnew : SortedByKey new) : Leads new m (sweep old new) :=
  @leads_sweep_from old new [] m hm hold hnew

end Config

end MeshControl
