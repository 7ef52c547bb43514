import MeshControl.Proofs.Config.Replay

/-!
A sweep as a difference. Both lists are gone through together, and at each step the smaller key is
settled for good. So the events come in the order of their keys, they tell every difference between
the lists and nothing else, and who holds the old list and follows them holds the new one.
-/
namespace MeshControl.Config

/-- What an event of a sweep says. A record whose key only the old list has was deleted, one whose
key only the new list has was added, and one of the new list was updated if the old list has
another record under its key. -/
def Differs (old new : List Record) (e : Record × Event) : Prop :=
  match e.2 with
  | .deleted => e.1 ∈ old ∧ ∀ n ∈ new, n.key ≠ e.1.key
  | .added => e.1 ∈ new ∧ ∀ o ∈ old, o.key ≠ e.1.key
  | .updated => e.1 ∈ new ∧ ∃ o ∈ old, o.key = e.1.key ∧ (o == e.1) = false

/-- The table of a list that is in the order of its keys. -/
def SortedByKey.table {l : List Record} (h : SortedByKey l) : Table Record :=
  ⟨l.map fun r => (r.key, r), by
    rw [List.pairwise_map]
    exact h⟩

/-- Entries hold the records of a new list: each of them outright, or in its place the record of
the old list that the comparison cannot tell from it. -/
def Renews (old : List Record) (entries : List (String × Record)) (new : List Record) : Prop :=
  List.Forall₂ (fun e n => e.1 = n.key ∧ (e.2 = n ∨ e.2 ∈ old ∧ (e.2 == n) = true)) entries new

/-! ### The steps of a sweep -/

/-- How two sorted lists are gone through: the smaller of the first keys is settled. -/
inductive Sweeps : List Record → List Record → List (Record × Event) → Prop
  | done : Sweeps [] [] []
  | deleted {o : Record} {old new : List Record} {events : List (Record × Event)}
      (hlt : ∀ r ∈ new, o.key < r.key) (hrest : Sweeps old new events) :
      Sweeps (o :: old) new ((o, .deleted) :: events)
  | added {n : Record} {old new : List Record} {events : List (Record × Event)}
      (hlt : ∀ r ∈ old, n.key < r.key) (hrest : Sweeps old new events) :
      Sweeps old (n :: new) ((n, .added) :: events)
  | updated {o n : Record} {old new : List Record} {events : List (Record × Event)}
      (hkey : o.key = n.key) (hdiffer : (o == n) = false) (hrest : Sweeps old new events) :
      Sweeps (o :: old) (n :: new) ((n, .updated) :: events)
  | kept {o n : Record} {old new : List Record} {events : List (Record × Event)}
      (hkey : o.key = n.key) (hsame : (o == n) = true) (hrest : Sweeps old new events) :
      Sweeps (o :: old) (n :: new) events

variable {old new : List Record} {o n : Record} {events : List (Record × Event)}

theorem SortedByKey.lt_of_mem {l : List Record} {r s : Record} (h : SortedByKey (r :: l))
    (hs : s ∈ l) : r.key < s.key := (List.pairwise_cons.mp h).1 s hs

theorem SortedByKey.tail {l : List Record} {r : Record} (h : SortedByKey (r :: l)) :
    SortedByKey l := (List.pairwise_cons.mp h).2

/-- A key before the first of a sorted list is before all of them. -/
theorem SortedByKey.lt_of_lt {l : List Record} {r s : Record} {k : String}
    (h : SortedByKey (r :: l)) (hk : k < r.key) (hs : s ∈ r :: l) : k < s.key := by
  rcases List.mem_cons.mp hs with rfl | hs
  · exact hk
  · exact String.lt_trans hk (h.lt_of_mem hs)

theorem sweeps_sweep (old new : List Record) (hold : SortedByKey old) (hnew : SortedByKey new) :
    Sweeps old new (sweep old new) := by
  match old, new with
  | [], [] =>
    rw [sweep]
    exact .done
  | [], n :: new =>
    rw [sweep_nil_cons]
    exact .added (fun r hr => absurd hr List.not_mem_nil) (sweeps_sweep [] new hold hnew.tail)
  | o :: old, [] =>
    rw [sweep_cons_nil]
    exact .deleted (fun r hr => absurd hr List.not_mem_nil) (sweeps_sweep old [] hold.tail hnew)
  | o :: old, n :: new =>
    rw [sweep]
    split
    · next hkey =>
      have hrest := sweeps_sweep old new hold.tail hnew.tail
      split
      · next hsame => exact .kept hkey hsame hrest
      · next hdiffer => exact .updated hkey (Bool.eq_false_iff.mpr hdiffer) hrest
    · next hne =>
      split
      · next hlt =>
        exact .deleted (fun r hr => hnew.lt_of_lt hlt hr)
          (sweeps_sweep old (n :: new) hold.tail hnew)
      · next hnlt =>
        have hlt : n.key < o.key := text_lt_of_le_of_ne (String.not_lt.mp hnlt) (Ne.symm hne)
        exact .added (fun r hr => hold.lt_of_lt hlt hr)
          (sweeps_sweep (o :: old) new hold hnew.tail)
termination_by old.length + new.length

/-! ### What the events tell -/

theorem differs_cons_old (hout : ∀ r ∈ new, o.key ≠ r.key) {e : Record × Event} :
    Differs (o :: old) new e ↔ e = (o, .deleted) ∨ Differs old new e := by
  obtain ⟨r, event⟩ := e
  cases event <;> simp only [Differs, List.mem_cons, Prod.mk.injEq] <;> grind

theorem differs_cons_new (hout : ∀ r ∈ old, n.key ≠ r.key) {e : Record × Event} :
    Differs old (n :: new) e ↔ e = (n, .added) ∨ Differs old new e := by
  obtain ⟨r, event⟩ := e
  cases event <;> simp only [Differs, List.mem_cons, Prod.mk.injEq] <;> grind

theorem differs_cons_both (hkey : o.key = n.key) (hold : ∀ r ∈ old, o.key ≠ r.key)
    (hnew : ∀ r ∈ new, n.key ≠ r.key) {e : Record × Event} :
    Differs (o :: old) (n :: new) e ↔
      (e = (n, .updated) ∧ (o == n) = false) ∨ Differs old new e := by
  obtain ⟨r, event⟩ := e
  cases event <;> simp only [Differs, List.mem_cons, Prod.mk.injEq] <;> grind

theorem Sweeps.mem_iff (h : Sweeps old new events) (hold : SortedByKey old)
    (hnew : SortedByKey new) (e : Record × Event) : e ∈ events ↔ Differs old new e := by
  induction h with
  | done =>
    obtain ⟨r, event⟩ := e
    cases event <;> simp [Differs]
  | deleted hlt _ ih =>
    rw [List.mem_cons, ih hold.tail hnew,
      differs_cons_old fun r hr => String.ne_of_lt (hlt r hr)]
  | added hlt _ ih =>
    rw [List.mem_cons, ih hold hnew.tail,
      differs_cons_new fun r hr => String.ne_of_lt (hlt r hr)]
  | updated hkey hdiffer _ ih =>
    rw [List.mem_cons, ih hold.tail hnew.tail, differs_cons_both hkey
      (fun r hr => String.ne_of_lt (hold.lt_of_mem hr))
      (fun r hr => String.ne_of_lt (hnew.lt_of_mem hr)), hdiffer]
    simp only [and_true]
  | kept hkey hsame _ ih =>
    rw [ih hold.tail hnew.tail, differs_cons_both hkey
      (fun r hr => String.ne_of_lt (hold.lt_of_mem hr))
      (fun r hr => String.ne_of_lt (hnew.lt_of_mem hr)), hsame]
    simp

/-- An event is about a record of one of the lists. -/
theorem Differs.mem {e : Record × Event} (h : Differs old new e) : e.1 ∈ old ∨ e.1 ∈ new := by
  obtain ⟨r, event⟩ := e
  cases event with
  | deleted => exact .inl h.1
  | added => exact .inr h.1
  | updated => exact .inr h.1

/-- Keys that are before those of both lists are before those of all events. -/
theorem Sweeps.lt_of_lt (h : Sweeps old new events) (hold : SortedByKey old)
    (hnew : SortedByKey new) {k : String} (hk : ∀ r ∈ old, k < r.key) (hk' : ∀ r ∈ new, k < r.key)
    {e : Record × Event} (he : e ∈ events) : k < e.1.key := by
  rcases ((h.mem_iff hold hnew e).mp he).mem with hmem | hmem
  · exact hk _ hmem
  · exact hk' _ hmem

theorem Sweeps.pairwise_key (h : Sweeps old new events) (hold : SortedByKey old)
    (hnew : SortedByKey new) : events.Pairwise fun a b => a.1.key < b.1.key := by
  induction h with
  | done => exact .nil
  | deleted hlt hrest ih =>
    refine List.pairwise_cons.mpr ⟨fun e he => ?_, ih hold.tail hnew⟩
    exact hrest.lt_of_lt hold.tail hnew (fun r hr => hold.lt_of_mem hr) hlt he
  | added hlt hrest ih =>
    refine List.pairwise_cons.mpr ⟨fun e he => ?_, ih hold hnew.tail⟩
    exact hrest.lt_of_lt hold hnew.tail hlt (fun r hr => hnew.lt_of_mem hr) he
  | updated hkey _ hrest ih =>
    refine List.pairwise_cons.mpr ⟨fun e he => ?_, ih hold.tail hnew.tail⟩
    exact hrest.lt_of_lt hold.tail hnew.tail (fun r hr => hkey ▸ hold.lt_of_mem hr)
      (fun r hr => hnew.lt_of_mem hr) he
  | kept _ _ _ ih => exact ih hold.tail hnew.tail

/-! ### Following the events -/

/-- Entries before all that is left of two lists. -/
def ComesBefore (front : List (String × Record)) (old new : List Record) : Prop :=
  ∀ e ∈ front, (∀ r ∈ old, e.1 < r.key) ∧ ∀ r ∈ new, e.1 < r.key

theorem ComesBefore.mono {front : List (String × Record)} {old' new' : List Record}
    (h : ComesBefore front old' new') (hold : old ⊆ old') (hnew : new ⊆ new') :
    ComesBefore front old new := fun e he =>
  ⟨fun r hr => (h e he).1 r (hold hr), fun r hr => (h e he).2 r (hnew hr)⟩

theorem ComesBefore.concat {front : List (String × Record)} (h : ComesBefore front old new)
    {k : String} (hold : ∀ r ∈ old, k < r.key) (hnew : ∀ r ∈ new, k < r.key) (held : Record) :
    ComesBefore (front ++ [(k, held)]) old new := by
  intro e he
  rcases List.mem_append.mp he with he | he
  · exact h e he
  · obtain rfl := List.mem_singleton.mp he
    exact ⟨hold, hnew⟩

/-- One more record is settled. -/
theorem exists_renews_cons {all : List Record} {front table : List (String × Record)}
    {k : String} {held : Record} (hheld : k = n.key ∧ (held = n ∨ held ∈ all ∧ (held == n) = true))
    (h : ∃ back, table = front ++ [(k, held)] ++ back ∧ Renews all back new) :
    ∃ back, table = front ++ back ∧ Renews all back (n :: new) := by
  obtain ⟨back, rfl, hback⟩ := h
  exact ⟨(k, held) :: back, by rw [List.append_assoc, List.singleton_append], .cons hheld hback⟩

/-- The entries of a sorted list come after a key that is before its records. -/
theorem lt_of_mem_entries {k : String} (h : ∀ r ∈ old, k < r.key) :
    ∀ e ∈ old.map fun r => (r.key, r), k < e.1 := by
  intro e he
  obtain ⟨r, hr, rfl⟩ := List.mem_map.mp he
  exact h r hr

/-- What is settled stays in front while the rest of the old list is turned into the rest of the
new one. -/
theorem Sweeps.renews {all : List Record} (h : Sweeps old new events) (hold : SortedByKey old)
    (hnew : SortedByKey new) (hall : old ⊆ all) (m : Table Record)
    (front : List (String × Record)) (hm : m.entries = front ++ old.map fun r => (r.key, r))
    (hfront : ComesBefore front old new) :
    ∃ back, (events.foldl follow m).entries = front ++ back ∧ Renews all back new := by
  induction h generalizing m front with
  | done => exact ⟨[], hm, .nil⟩
  | @deleted o old new events hlt _ ih =>
    have hbefore : ∀ e ∈ front, e.1 < o.key := fun e he => (hfront e he).1 o List.mem_cons_self
    have hm' : (follow m (o, .deleted)).entries = front ++ old.map fun r => (r.key, r) := by
      change m.entries.filter (fun e => e.1 != o.key) = _
      rw [hm, List.map_cons]
      exact Entries.filter_ne_append_cons o hbefore
        (lt_of_mem_entries fun r hr => hold.lt_of_mem hr)
    exact ih hold.tail hnew (List.subset_of_cons_subset hall) _ front hm'
      (hfront.mono (List.subset_cons_self o old) (List.Subset.refl new))
  | @added n old new events hlt _ ih =>
    have hbefore : ∀ e ∈ front, e.1 < n.key := fun e he => (hfront e he).2 n List.mem_cons_self
    have hm' : (follow m (n, .added)).entries =
        front ++ [(n.key, n)] ++ old.map fun r => (r.key, r) := by
      change Entries.put textLt n.key n m.entries = _
      rw [hm, Entries.put_append hbefore, Entries.put_of_lt (lt_of_mem_entries hlt),
        List.append_assoc, List.singleton_append]
    exact exists_renews_cons ⟨rfl, .inl rfl⟩ (ih hold hnew.tail hall _ _ hm'
      ((hfront.mono (List.Subset.refl old) (List.subset_cons_self n new)).concat hlt
        (fun r hr => hnew.lt_of_mem hr) n))
  | @updated o n old new events hkey _ _ ih =>
    have hbefore : ∀ e ∈ front, e.1 < n.key := fun e he => (hfront e he).2 n List.mem_cons_self
    have hm' : (follow m (n, .updated)).entries =
        front ++ [(n.key, n)] ++ old.map fun r => (r.key, r) := by
      have hsame : textLt n.key n.key = false := decide_eq_false (String.lt_irrefl n.key)
      change Entries.put textLt n.key n m.entries = _
      rw [hm, Entries.put_append hbefore, List.map_cons, hkey, Entries.put, hsame,
        if_neg Bool.false_ne_true, if_pos rfl, List.append_assoc, List.singleton_append]
    exact exists_renews_cons ⟨rfl, .inl rfl⟩ (ih hold.tail hnew.tail
      (List.subset_of_cons_subset hall) _ _ hm'
      ((hfront.mono (List.subset_cons_self o old) (List.subset_cons_self n new)).concat
        (fun r hr => hkey ▸ hold.lt_of_mem hr) (fun r hr => hnew.lt_of_mem hr) n))
  | @kept o n old new events hkey hsame _ ih =>
    rw [List.map_cons, ← List.singleton_append, ← List.append_assoc] at hm
    exact exists_renews_cons ⟨hkey, .inr ⟨hall List.mem_cons_self, hsame⟩⟩ (ih hold.tail hnew.tail
      (List.subset_of_cons_subset hall) m _ hm
      ((hfront.mono (List.subset_cons_self o old) (List.subset_cons_self n new)).concat
        (fun r hr => hold.lt_of_mem hr) (fun r hr => hkey ▸ hnew.lt_of_mem hr) o))

/-- The events of a sweep over two sorted lists come in the order of their keys. They tell every
difference between the lists and nothing else, and turn the table of the old list into that of the
new one. -/
theorem sweep_is_ordered_difference {old new : List Record} (hold : SortedByKey old)
    (hnew : SortedByKey new) :
    (sweep old new).Pairwise (fun a b => a.1.key < b.1.key) ∧
      (∀ e, e ∈ sweep old new ↔ Differs old new e) ∧
      Renews old ((sweep old new).foldl follow hold.table).entries new := by
  have h := sweeps_sweep old new hold hnew
  obtain ⟨back, hback, hrenews⟩ := h.renews hold hnew (List.Subset.refl old) hold.table [] rfl
    fun e he => absurd he List.not_mem_nil
  rw [List.nil_append] at hback
  exact ⟨h.pairwise_key hold hnew, h.mem_iff hold hnew, hback ▸ hrenews⟩

/-! ### A difference of each kind -/

def widgetAt (key : String) (revision : Revision) : Record :=
  ⟨"widget", key, revision, ⟨"test.Widget", .obj [("name", .str key), ("size", .int 1)]⟩⟩

def widgetsBefore : List Record := [widgetAt "a" "1", widgetAt "b" "1", widgetAt "c" "1"]

def widgetsAfter : List Record := [widgetAt "a" "2", widgetAt "c" "1", widgetAt "d" "1"]

theorem sweep_of_widgets :
    ∃ hbefore : SortedByKey widgetsBefore, SortedByKey widgetsAfter ∧
      sweep widgetsBefore widgetsAfter = [(widgetAt "a" "2", .updated),
        (widgetAt "b" "1", .deleted), (widgetAt "d" "1", .added)] ∧
      (∀ e, e ∈ sweep widgetsBefore widgetsAfter ↔ Differs widgetsBefore widgetsAfter e) ∧
      Renews widgetsBefore ((sweep widgetsBefore widgetsAfter).foldl follow hbefore.table).entries
        widgetsAfter := by
  have hbefore : SortedByKey widgetsBefore := by
    simp only [SortedByKey, widgetsBefore]
    decide
  have hafter : SortedByKey widgetsAfter := by
    simp only [SortedByKey, widgetsAfter]
    decide
  obtain ⟨-, htold, hrenewed⟩ := sweep_is_ordered_difference hbefore hafter
  exact ⟨hbefore, hafter, by cbv, htold, hrenewed⟩

end MeshControl.Config
