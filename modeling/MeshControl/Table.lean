/-!
Tables from texts to values, kept in the order of their keys. A table is determined by
what it holds: two tables with the same entries are equal, however they were filled.
-/
namespace MeshControl

namespace Entries

variable {κ α : Type}

/-- Puts a value under a key in a list sorted by `lt`, in place of the value held there. -/
def put [DecidableEq κ] (lt : κ → κ → Bool) (k : κ) (v : α) : List (κ × α) → List (κ × α)
  | [] => [(k, v)]
  | (k', v') :: rest =>
    if lt k k' then (k, v) :: (k', v') :: rest
    else if k = k' then (k, v) :: rest
    else (k', v') :: put lt k v rest

def find? [DecidableEq κ] (k : κ) : List (κ × α) → Option α
  | [] => none
  | (k', v) :: rest => if k = k' then some v else find? k rest

theorem mem_put [DecidableEq κ] {lt : κ → κ → Bool} {k : κ} {v : α} {l : List (κ × α)}
    {e : κ × α} (h : e ∈ put lt k v l) : e = (k, v) ∨ e ∈ l := by
  induction l with
  | nil => simpa [put] using h
  | cons a l ih =>
    obtain ⟨k', v'⟩ := a
    simp only [put] at h
    split at h
    · simpa using h
    · split at h
      · rcases List.mem_cons.mp h with h | h
        · exact .inl h
        · exact .inr (List.mem_cons_of_mem _ h)
      · rcases List.mem_cons.mp h with h | h
        · exact .inr (by simp [h])
        · rcases ih h with h | h
          · exact .inl h
          · exact .inr (List.mem_cons_of_mem _ h)

theorem find?_put_self [DecidableEq κ] (lt : κ → κ → Bool) (k : κ) (v : α)
    (l : List (κ × α)) : find? k (put lt k v l) = some v := by
  induction l with
  | nil => simp [put, find?]
  | cons a l ih =>
    obtain ⟨k', v'⟩ := a
    simp only [put]
    split
    · simp [find?]
    · split
      · simp [find?]
      · next hne => simp [find?, hne, ih]

theorem find?_put_ne [DecidableEq κ] (lt : κ → κ → Bool) {k j : κ} (hne : j ≠ k) (v : α)
    (l : List (κ × α)) : find? j (put lt k v l) = find? j l := by
  induction l with
  | nil => simp [put, find?, hne]
  | cons a l ih =>
    obtain ⟨k', v'⟩ := a
    simp only [put]
    split
    · simp [find?, hne]
    · split
      · next heq => subst heq; simp [find?, hne]
      · simp [find?, ih]

theorem mem_of_find? [DecidableEq κ] {k : κ} {v : α} {l : List (κ × α)}
    (h : find? k l = some v) : (k, v) ∈ l := by
  induction l with
  | nil => cases h
  | cons a l ih =>
    obtain ⟨k', v'⟩ := a
    rw [find?] at h
    split at h
    · next heq =>
      rw [heq, Option.some.inj h]
      exact List.mem_cons_self
    · exact List.mem_cons_of_mem _ (ih h)

/-- In a sorted list every entry is the one that is found under its key. -/
theorem mem_iff_find? {l : List (String × α)} (h : l.Pairwise (fun a b => a.1 < b.1))
    (k : String) (v : α) : (k, v) ∈ l ↔ find? k l = some v := by
  induction l with
  | nil => simp [find?]
  | cons a l ih =>
    obtain ⟨k', v'⟩ := a
    have ⟨hhead, htail⟩ := List.pairwise_cons.mp h
    rw [find?, List.mem_cons]
    split
    · next heq =>
      subst heq
      have hout : (k, v) ∉ l := fun hmem => String.lt_irrefl k (hhead (k, v) hmem)
      simp [hout, eq_comm]
    · next hne => simp [hne, ih htail]

theorem find?_filter_ne {k j : String} (l : List (String × α)) :
    find? j (l.filter fun e => e.1 != k) = if j = k then none else find? j l := by
  induction l with
  | nil => simp [find?]
  | cons a l ih =>
    obtain ⟨k', v'⟩ := a
    by_cases hk : k' = k
    · subst hk
      rw [List.filter_cons_of_neg (by simp), ih, find?]
      split <;> rfl
    · rw [List.filter_cons_of_pos (by simpa using hk), find?, find?, ih]
      by_cases hj : j = k'
      · subst hj
        simp [hk]
      · simp [hj]

/-- Puts a key into a sorted list of keys unless it is there. -/
def addKey [DecidableEq κ] (lt : κ → κ → Bool) (k : κ) : List κ → List κ
  | [] => [k]
  | k' :: rest =>
    if lt k k' then k :: k' :: rest else if k = k' then k' :: rest else k' :: addKey lt k rest

/-- The keys that occur, sorted, each once. -/
def keysOf [DecidableEq κ] (lt : κ → κ → Bool) (l : List (κ × α)) : List κ :=
  l.foldl (fun keys e => addKey lt e.1 keys) []

def valuesAt [DecidableEq κ] (k : κ) (l : List (κ × α)) : List α :=
  (l.filter (·.1 = k)).map (·.2)

/-- The values of every key, in their order. -/
def group [DecidableEq κ] (lt : κ → κ → Bool) (l : List (κ × α)) : List (κ × List α) :=
  (keysOf lt l).map fun k => (k, valuesAt k l)

theorem mem_addKey [DecidableEq κ] {lt : κ → κ → Bool} {j k : κ} {keys : List κ} :
    j ∈ addKey lt k keys ↔ j = k ∨ j ∈ keys := by
  induction keys with
  | nil => simp [addKey]
  | cons k' keys ih =>
    simp only [addKey]
    split
    · rw [List.mem_cons]
    · split
      · next heq => simp [heq]
      · simp only [List.mem_cons, ih, or_left_comm]

theorem mem_keysOf [DecidableEq κ] {lt : κ → κ → Bool} {k : κ} {l : List (κ × α)} :
    k ∈ keysOf lt l ↔ ∃ v, (k, v) ∈ l := by
  have hfold : ∀ (l : List (κ × α)) (keys : List κ),
      k ∈ l.foldl (fun keys e => addKey lt e.1 keys) keys ↔ k ∈ keys ∨ ∃ v, (k, v) ∈ l := by
    intro l
    induction l with
    | nil => simp
    | cons e l ih =>
      intro keys
      obtain ⟨k', v'⟩ := e
      rw [List.foldl_cons, ih, mem_addKey]
      simp only [List.mem_cons, Prod.mk.injEq, exists_or, exists_eq_right]
      grind
  simp [keysOf, hfold]

theorem mem_valuesAt [DecidableEq κ] {k : κ} {v : α} {l : List (κ × α)} :
    v ∈ valuesAt k l ↔ (k, v) ∈ l := by
  simp [valuesAt]

/-- What stands under a key in a grouped list is what stood under it before. -/
theorem mem_of_mem_group [DecidableEq κ] {lt : κ → κ → Bool} {k : κ} {vs : List α}
    {l : List (κ × α)} (h : (k, vs) ∈ group lt l) {v : α} : v ∈ vs ↔ (k, v) ∈ l := by
  obtain ⟨k', -, heq⟩ := List.mem_map.mp h
  obtain ⟨rfl, rfl⟩ := Prod.mk.inj heq
  exact mem_valuesAt

/-- A group holds exactly the values that stand under its key. -/
theorem exists_mem_group_iff [DecidableEq κ] {lt : κ → κ → Bool} {k : κ} {v : α}
    {l : List (κ × α)} : (∃ vs, (k, vs) ∈ group lt l ∧ v ∈ vs) ↔ (k, v) ∈ l := by
  constructor
  · rintro ⟨vs, hgroup, hv⟩
    exact (mem_of_mem_group hgroup).mp hv
  · intro hmem
    exact ⟨valuesAt k l, List.mem_map.mpr ⟨k, mem_keysOf.mpr ⟨v, hmem⟩, rfl⟩,
      mem_valuesAt.mpr hmem⟩

end Entries

def textLt (a b : String) : Bool := decide (a < b)

theorem not_textLt_iff (a b : String) : (!textLt b a) = true ↔ a ≤ b := by
  rw [Bool.not_eq_true', textLt, decide_eq_false_iff_not, String.not_lt]

theorem text_lt_of_le_of_ne {a b : String} (hle : a ≤ b) (hne : a ≠ b) : a < b :=
  Decidable.byContradiction fun hnot => hne (String.le_antisymm hle (String.not_lt.mp hnot))

/-- What is sorted by a text stands in the order of its texts. -/
theorem pairwise_mergeSort_text {α : Type} (text : α → String) (l : List α) :
    (l.mergeSort fun a b => !textLt (text b) (text a)).Pairwise fun a b => text a ≤ text b := by
  have htrans : ∀ a b c : α, (!textLt (text b) (text a)) = true →
      (!textLt (text c) (text b)) = true → (!textLt (text c) (text a)) = true := by
    intro a b c hab hbc
    rw [not_textLt_iff] at hab hbc ⊢
    exact String.le_trans hab hbc
  have htotal : ∀ a b : α, ((!textLt (text b) (text a)) || !textLt (text a) (text b)) = true := by
    intro a b
    rw [Bool.or_eq_true, not_textLt_iff, not_textLt_iff]
    exact String.le_total (text a) (text b)
  exact (List.pairwise_mergeSort htrans htotal l).imp fun h => (not_textLt_iff _ _).mp h

structure Table (α : Type) where
  entries : List (String × α)
  sorted : entries.Pairwise (fun a b => a.1 < b.1)

namespace Table

variable {α β : Type}

theorem ext {s t : Table α} (h : s.entries = t.entries) : s = t := by
  cases s; cases t; simp_all

instance [DecidableEq α] : DecidableEq (Table α) := fun s t =>
  if h : s.entries = t.entries then isTrue (ext h)
  else isFalse fun heq => h (heq ▸ rfl)

def empty : Table α := ⟨[], .nil⟩

instance : Inhabited (Table α) := ⟨empty⟩

theorem put_sorted (k : String) (v : α) {l : List (String × α)}
    (h : l.Pairwise (fun a b => a.1 < b.1)) :
    (Entries.put textLt k v l).Pairwise (fun a b => a.1 < b.1) := by
  induction l with
  | nil => simp [Entries.put]
  | cons a l ih =>
    obtain ⟨k', v'⟩ := a
    have ⟨hhead, htail⟩ := List.pairwise_cons.mp h
    simp only [Entries.put, textLt, decide_eq_true_eq]
    split
    · next hlt =>
      refine List.pairwise_cons.mpr ⟨fun e he => ?_, h⟩
      rcases List.mem_cons.mp he with rfl | he
      · exact hlt
      · exact String.lt_trans hlt (hhead e he)
    · next hnlt =>
      split
      · next heq =>
        subst heq
        exact List.pairwise_cons.mpr ⟨hhead, htail⟩
      · next hne =>
        refine List.pairwise_cons.mpr ⟨fun e he => ?_, ih htail⟩
        rcases Entries.mem_put he with rfl | he
        · exact text_lt_of_le_of_ne (String.not_lt.mp hnlt) (Ne.symm hne)
        · exact hhead e he

def insert (k : String) (v : α) (t : Table α) : Table α :=
  ⟨Entries.put textLt k v t.entries, put_sorted k v t.sorted⟩

def find? (k : String) (t : Table α) : Option α := Entries.find? k t.entries

def contains (k : String) (t : Table α) : Bool := (t.find? k).isSome

def erase (k : String) (t : Table α) : Table α :=
  ⟨t.entries.filter (fun e => e.1 != k), t.sorted.filter _⟩

/-- The table of a list of entries; of entries with one key the last counts. -/
def ofList (l : List (String × α)) : Table α := l.foldl (fun t e => t.insert e.1 e.2) empty

def toList (t : Table α) : List (String × α) := t.entries

def keys (t : Table α) : List String := t.entries.map (·.1)

def values (t : Table α) : List α := t.entries.map (·.2)

def size (t : Table α) : Nat := t.entries.length

def isEmpty (t : Table α) : Bool := t.entries.isEmpty

@[simp] theorem find?_insert_self (k : String) (v : α) (t : Table α) :
    (t.insert k v).find? k = some v := Entries.find?_put_self _ _ _ _

theorem find?_insert_ne {k j : String} (h : j ≠ k) (v : α) (t : Table α) :
    (t.insert k v).find? j = t.find? j := Entries.find?_put_ne _ h _ _

theorem find?_insert (k j : String) (v : α) (t : Table α) :
    (t.insert k v).find? j = if j = k then some v else t.find? j := by
  split
  · next h => rw [h, find?_insert_self]
  · next h => exact find?_insert_ne h v t

theorem find?_erase (k j : String) (t : Table α) :
    (t.erase k).find? j = if j = k then none else t.find? j := Entries.find?_filter_ne _

@[simp] theorem find?_empty (k : String) : (empty : Table α).find? k = none := rfl

theorem mem_toList_iff (t : Table α) (k : String) (v : α) :
    (k, v) ∈ t.toList ↔ t.find? k = some v := Entries.mem_iff_find? t.sorted k v

theorem mem_values_iff (t : Table α) (v : α) : v ∈ t.values ↔ ∃ k, t.find? k = some v := by
  simp only [values, List.mem_map, Prod.exists, exists_eq_right]
  exact exists_congr fun k => t.mem_toList_iff k v

end Table

end MeshControl
