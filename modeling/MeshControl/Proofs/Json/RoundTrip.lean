import MeshControl.Proofs.Json.Finite
import MeshControl.Proofs.Table

/-!
Readers against writers. A reader inverts a writer if it gives back every value that can be
written, and if all that it finds in data can be written. Readers of lists, tables and records
invert the writers of these when the readers of their parts do.
-/
namespace MeshControl

/-! ### Values as data -/

namespace Json

mutual
/-- No double in the value is infinite or not a number. JSON has no text for such a double. -/
def isFinite : Json → Bool
  | .float x => x.isFinite
  | .arr items => isFiniteItems items
  | .obj fields => isFiniteFields fields
  | _ => true

def isFiniteItems : List Json → Bool
  | [] => true
  | j :: js => isFinite j && isFiniteItems js

def isFiniteFields : List (String × Json) → Bool
  | [] => true
  | (_, j) :: fs => isFinite j && isFiniteFields fs
end

theorem isFiniteItems_iff {items : List Json} :
    isFiniteItems items = true ↔ ∀ j ∈ items, j.isFinite = true := by
  induction items with
  | nil => simp [isFiniteItems]
  | cons j js ih => rw [isFiniteItems, Bool.and_eq_true, ih, List.forall_mem_cons]

theorem isFiniteFields_iff {fields : List (String × Json)} :
    isFiniteFields fields = true ↔ ∀ e ∈ fields, e.2.isFinite = true := by
  induction fields with
  | nil => simp [isFiniteFields]
  | cons e fs ih => rw [isFiniteFields, Bool.and_eq_true, ih, List.forall_mem_cons]

theorem normalizeItems_eq (items : List Json) : normalizeItems items = items.map normalize := by
  induction items with
  | nil => rfl
  | cons j js ih => rw [normalizeItems, ih, List.map_cons]

theorem normalizeFields_eq (fields : List (String × Json)) :
    normalizeFields fields = fields.map fun e => (e.1, e.2.normalize) := by
  induction fields with
  | nil => rfl
  | cons e fs ih => rw [normalizeFields, ih, List.map_cons]

theorem isNull_normalize (j : Json) : Source.isNull j.normalize = Source.isNull j := by
  cases j <;> rfl

/-- Sorting fields makes a table of them. -/
theorem sortFields_eq (fields : List (String × Json)) :
    sortFields fields = (Table.ofList fields).toList := by
  have hfold : ∀ (fields : List (String × Json)) (t : Table Json),
      fields.foldl (fun l e => Entries.put textLt e.1 e.2 l) t.toList =
        (fields.foldl (fun t e => t.insert e.1 e.2) t).toList := by
    intro fields
    induction fields with
    | nil => exact fun t => rfl
    | cons e fields ih => exact fun t => ih (t.insert e.1 e.2)
  exact hfold fields Table.empty

theorem sortFields_toList (t : Table Json) : sortFields t.toList = t.toList := by
  rw [sortFields_eq, Table.ofList_of_perm (.refl _)]

/-- An object with a field for every name that a value stands under. -/
def ofSlots (slots : List (String × Option Json)) : Json :=
  object (slots.map fun e => optional e.1 e.2)

/-- The fields of such an object as data. -/
def given (slots : List (String × Option Json)) : List (String × Json) :=
  slots.filterMap fun e => e.2.map fun v => (e.1, v.normalize)

theorem normalize_ofSlots (slots : List (String × Option Json)) :
    (ofSlots slots).normalize = .obj (Table.ofList (given slots)).toList := by
  rw [ofSlots, object, normalize, sortFields_eq, normalizeFields_eq, List.filterMap_map,
    List.map_filterMap, given]
  simp only [Function.comp_def, optional, id_eq, Option.map_map]

theorem mem_given {slots : List (String × Option Json)} {name : String} {v : Json} :
    (name, v) ∈ given slots ↔ ∃ j, (name, some j) ∈ slots ∧ j.normalize = v := by
  simp [given]

theorem nodup_given {slots : List (String × Option Json)} (h : (slots.map (·.1)).Nodup) :
    ((given slots).map (·.1)).Nodup := by
  have hsub : ((given slots).map (·.1)).Sublist (slots.map (·.1)) := by
    clear h
    induction slots with
    | nil => exact .slnil
    | cons e slots ih =>
      obtain ⟨name, value⟩ := e
      cases value with
      | none => exact ih.cons name
      | some v => exact ih.cons_cons name
  exact h.sublist hsub

theorem onlyIf_eq (c : Bool) (name : String) (value : Json) :
    onlyIf c name value = optional name (if c then some value else none) := by
  cases c <;> rfl

end Json

namespace Entries

variable {α : Type}

theorem find?_filter {p : String → Bool} {k : String} (h : p k = true) (l : List (String × α)) :
    find? k (l.filter fun e => p e.1) = find? k l := by
  induction l with
  | nil => rfl
  | cons e l ih =>
    obtain ⟨k', v⟩ := e
    by_cases hk : k = k'
    · subst hk
      rw [List.filter_cons, if_pos h, find?, find?, if_pos rfl, if_pos rfl]
    · rw [find?, if_neg hk, List.filter_cons]
      split
      · rw [find?, if_neg hk, ih]
      · exact ih

end Entries

namespace Decode

variable {α β : Type}

/-! ### Finds -/

/-- Whatever is found is good. -/
def Yields (Good : α → Prop) (found : Decoded α) : Prop := ∀ a, found = .ok a → Good a

theorem yields_any (found : Decoded α) : Yields (fun _ => True) found := fun _ _ => trivial

theorem Yields.pure {Good : α → Prop} {a : α} (h : Good a) : Yields Good (pure a) := by
  intro b hb
  rw [← Except.ok.inj hb]
  exact h

theorem Yields.error {Good : α → Prop} {e : DecodeError} : Yields Good (.error e) :=
  fun _ h => nomatch h

theorem Yields.bind {Good : α → Prop} {Fine : β → Prop} {found : Decoded α}
    {next : α → Decoded β} (h : Yields Good found) (hnext : ∀ a, Good a → Yields Fine (next a)) :
    Yields Fine (found >>= next) := by
  intro b hb
  cases found with
  | error e => cases hb
  | ok a => exact hnext a (h a rfl) b hb

theorem Yields.map {Good : α → Prop} {Fine : β → Prop} {found : Decoded α} {f : α → β}
    (h : Yields Good found) (hf : ∀ a, Good a → Fine (f a)) : Yields Fine (found.map f) := by
  cases found with
  | error e => exact .error
  | ok a => exact .pure (hf a (h a rfl))

theorem bind_eq_ok {found : Decoded α} {next : α → Decoded β} {a : α} {b : β}
    (h : found = .ok a) (hnext : next a = .ok b) : found >>= next = .ok b := by
  rw [h]
  exact hnext

/-- A reader gives back what was written, which is never a null, and finds only what can be
written. -/
structure Inverts (read : Json → Decoded α) (write : α → Json) (Good : α → Prop) : Prop where
  notNull : ∀ a, Good a → Source.isNull (write a) = false
  read_write : ∀ a, Good a → read (write a).normalize = .ok a
  yields : ∀ j, j.isFinite = true → Yields Good (read j)

theorem inverts_text : Inverts text Json.str fun _ => True where
  notNull _ _ := rfl
  read_write _ _ := rfl
  yields _ _ := yields_any _

theorem yields_integerIn (lo hi : Int) (j : Json) :
    Yields (fun n => lo ≤ n ∧ n ≤ hi) (integerIn lo hi j) := by
  unfold integerIn
  split
  · split
    · next hrange => exact .pure hrange
    · exact .error
  · exact .error

theorem inverts_integerIn (lo hi : Int) :
    Inverts (integerIn lo hi) Json.int fun n => lo ≤ n ∧ n ≤ hi where
  notNull _ _ := rfl
  read_write _ hn := if_pos hn
  yields j _ := yields_integerIn lo hi j

/-- A whole number of 32 bits. -/
def IsInt32 (n : Int) : Prop := Int32.minValue.toInt ≤ n ∧ n ≤ Int32.maxValue.toInt

/-- A whole number of 64 bits. -/
def IsInt64 (n : Int) : Prop := Int64.minValue.toInt ≤ n ∧ n ≤ Int64.maxValue.toInt

instance : DecidablePred IsInt32 := fun _ => inferInstanceAs (Decidable (_ ∧ _))

instance : DecidablePred IsInt64 := fun _ => inferInstanceAs (Decidable (_ ∧ _))

theorem inverts_int32 : Inverts int32 Json.int IsInt32 := inverts_integerIn _ _

theorem inverts_int64 : Inverts int64 Json.int IsInt64 := inverts_integerIn _ _

theorem inverts_natBits (bits : Nat) : Inverts (natBits bits) Json.nat (· < 2 ^ bits) where
  notNull _ _ := rfl
  read_write n hn := by
    have hrange : (0 : Int) ≤ n ∧ (n : Int) ≤ (Nat.pow 2 bits : Nat) - 1 := by
      change n < Nat.pow 2 bits at hn
      omega
    rw [natBits, Json.nat, (inverts_integerIn _ _).read_write _ hrange]
    rfl
  yields j _ := by
    refine (yields_integerIn _ _ j).map fun i hi => ?_
    change i.toNat < Nat.pow 2 bits
    omega

theorem inverts_number : Inverts number Json.double fun x => x.isFinite = true where
  notNull x hx := by rw [Json.double, if_pos hx]; rfl
  read_write x hx := by rw [Json.double, if_pos hx]; rfl
  yields j hj := by
    cases j with
    | int n => exact .pure (Json.isFinite_floatOfInt n)
    | float x => exact .pure hj
    | null | bool _ | str _ | arr _ | obj _ => exact .error

/-- What is not finite is lost: it is written as a null, and a null is not read as a double. -/
example : number (Json.double (1.0 / 0.0)) = malformed := by rfl

/-! ### Lists and tables -/

section Parts

variable {read : Json → Decoded α} {write : α → Json} {Good : α → Prop}

theorem Inverts.list (h : Inverts read write Good) :
    Inverts (Decode.list read) (fun as => .arr (as.map write)) fun as => ∀ a ∈ as, Good a where
  notNull _ _ := rfl
  read_write as has := by
    rw [Json.normalize, Json.normalizeItems_eq]
    change each read ((as.map write).map Json.normalize) = .ok as
    induction as with
    | nil => rfl
    | cons a as ih =>
      obtain ⟨ha, has⟩ := List.forall_mem_cons.mp has
      rw [List.map_cons, List.map_cons, each, h.read_write a ha, ih has]
  yields j hj := by
    have heach : ∀ items : List Json, (∀ j ∈ items, j.isFinite = true) →
        Yields (fun as => ∀ a ∈ as, Good a) (each read items) := by
      intro items
      induction items with
      | nil => exact fun _ => .pure (List.forall_mem_nil _)
      | cons j items ih =>
        intro hitems
        obtain ⟨hj, hitems⟩ := List.forall_mem_cons.mp hitems
        rw [each_eq_bind]
        refine (h.yields j hj).bind fun a ha => ?_
        refine (ih hitems).bind fun as has => ?_
        exact .pure (List.forall_mem_cons.mpr ⟨ha, has⟩)
    cases j with
    | arr items => exact heach items (Json.isFiniteItems_iff.mp hj)
    | null | bool _ | int _ | float _ | str _ | obj _ => exact .error

theorem Inverts.table (h : Inverts read write fun _ => True) :
    Inverts (Decode.table read) (fun t => .obj (t.toList.map fun (k, a) => (k, write a)))
      fun _ => True where
  notNull _ _ := rfl
  read_write t _ := by
    have hentries : ∀ l : List (String × α),
        entries read (l.map fun e => (e.1, (write e.2).normalize)) = .ok l := by
      intro l
      induction l with
      | nil => rfl
      | cons e l ih => rw [List.map_cons, entries, h.read_write _ trivial, ih]
    let fields := t.toList.map fun e => (e.1, (write e.2).normalize)
    -- the entries of a table stand in the order of their keys, so sorting leaves them alone
    have hsorted : fields.Pairwise fun a b => a.1 < b.1 := List.pairwise_map.mpr t.sorted
    have hsort : Json.sortFields fields = fields := Json.sortFields_toList ⟨fields, hsorted⟩
    rw [Json.normalize, Json.normalizeFields_eq, List.map_map]
    change (entries read (Json.sortFields fields)).map Table.ofList = .ok t
    rw [hsort, hentries]
    exact congrArg Except.ok (Table.ofList_of_perm (.refl _))
  yields _ _ := yields_any _

end Parts

/-! ### Records -/

/-- A record holds in its fields what stands under their names. -/
def Record.Holds (r : Record Json) : List (String × Option Json) → Prop
  | [] => True
  | (name, value) :: slots => r.get? name = value.map Json.normalize ∧ r.Holds slots

theorem Record.holds_iff {r : Record Json} {slots : List (String × Option Json)} :
    r.Holds slots ↔ ∀ e ∈ slots, r.get? e.1 = e.2.map Json.normalize := by
  induction slots with
  | nil => simp [Holds]
  | cons e slots ih => rw [Holds, ih, List.forall_mem_cons]

theorem Record.holds_append {r : Record Json} {slots more : List (String × Option Json)} :
    r.Holds (slots ++ more) ↔ r.Holds slots ∧ r.Holds more := by
  rw [holds_iff, holds_iff, holds_iff, List.forall_mem_append]

theorem repeated_eq_false {names : List String} {fields : List (String × Json)}
    (h : (fields.map (·.1)).Nodup) : repeated names fields = false := by
  induction fields with
  | nil => rfl
  | cons e fields ih =>
    obtain ⟨hout, hnodup⟩ := List.nodup_cons.mp h
    have hany : fields.any (·.1 == e.1) = false := by
      rw [List.any_eq_false]
      intro e' he' heq
      exact hout (List.mem_map.mpr ⟨e', he', beq_iff_eq.mp heq⟩)
    rw [repeated, hany, Bool.and_false, Bool.false_or]
    exact ih hnodup

/-- An object that was made of fields is read as a record with these. -/
theorem exists_namedRecord {names : List String} {slots : List (String × Option Json)}
    (hslots : slots.map (·.1) = names) (hnames : names.Nodup) :
    ∃ r, namedRecord names (Json.ofSlots slots).normalize = .ok r ∧ r.Holds slots := by
  subst hslots
  let t := Table.ofList (Json.given slots)
  have hkeys : (t.toList.map (·.1)).Nodup :=
    List.pairwise_map.mpr (t.sorted.imp fun hlt => String.ne_of_lt hlt)
  refine ⟨t.toList.filter fun e => (slots.map (·.1)).contains e.1, ?_, ?_⟩
  · rw [Json.normalize_ofSlots]
    exact if_neg (by rw [repeated_eq_false hkeys]; exact Bool.false_ne_true)
  · refine Record.holds_iff.mpr fun e he => ?_
    have hname : (slots.map (·.1)).contains e.1 = true := by
      rw [List.contains_iff_mem]
      exact List.mem_map_of_mem he
    refine (Entries.find?_filter hname t.toList).trans (Option.ext fun v => ?_)
    have hfind := Table.find?_ofList (Json.nodup_given hnames) e.1 v
    refine hfind.trans (Json.mem_given.trans ?_)
    rw [Option.map_eq_some_iff]
    constructor
    · rintro ⟨j, hj, hv⟩
      -- no other slot has this name, so the value comes from the slot itself
      have heq : e = (e.1, some j) := List.inj_on_of_nodup_map hnames he hj rfl
      exact ⟨j, congrArg Prod.snd heq, hv⟩
    · rintro ⟨j, hj, hv⟩
      exact ⟨j, hj ▸ he, hv⟩

/-- The fields that are found in a record have finite doubles. -/
def Record.IsFinite (r : Record Json) : Prop :=
  ∀ name j, r.get? name = some j → j.isFinite = true

theorem yields_namedRecord (names : List String) {j : Json} (hj : j.isFinite = true) :
    Yields Record.IsFinite (namedRecord names j) := by
  cases j with
  | obj fields =>
    change Yields Record.IsFinite (if repeated names fields then malformed else _)
    split
    · exact .error
    · refine .pure fun name v hv => ?_
      have hmem := List.mem_of_mem_filter (Entries.mem_of_find? hv)
      exact Json.isFiniteFields_iff.mp hj _ hmem
  | null | bool _ | int _ | float _ | str _ | arr _ => exact .error

theorem yields_record (names : List String) {j : Json} (hj : j.isFinite = true) :
    Yields Record.IsFinite (record names j) := by
  cases j with
  | arr items =>
    change Yields Record.IsFinite (if items.length ≤ names.length then _ else malformed)
    split
    · refine .pure fun name v hv => ?_
      have hmem := (List.of_mem_zip (Entries.mem_of_find? hv)).2
      exact Json.isFiniteItems_iff.mp hj v hmem
    · exact .error
  | obj fields => exact yields_namedRecord names hj
  | null | bool _ | int _ | float _ | str _ => exact .error

section Fields

variable {read : Json → Decoded α} {write : α → Json} {Good : α → Prop} {r : Record Json}
  {name : String}

theorem Inverts.required (h : Inverts read write Good) {a : α}
    (hget : r.get? name = (some (write a)).map Json.normalize) (ha : Good a) :
    r.required name read = .ok a := by
  rw [Record.required, hget]
  exact h.read_write a ha

theorem Inverts.withDefault (h : Inverts read write Good) {a default : α}
    (hget : r.get? name = (some (write a)).map Json.normalize) (ha : Good a) :
    r.withDefault name default read = .ok a := by
  rw [Record.withDefault, hget]
  exact h.read_write a ha

/-- A field may be left out for the value that stands in for it. -/
theorem Inverts.onlyIf (h : Inverts read write Good) {a default : α} {given : Bool}
    (hget : r.get? name = (if given then some (write a) else none).map Json.normalize)
    (hdefault : given = false → a = default) (ha : Good a) :
    r.withDefault name default read = .ok a := by
  cases given with
  | false =>
    rw [hdefault rfl, Record.withDefault, hget]
    rfl
  | true => exact h.withDefault hget ha

theorem Inverts.optional (h : Inverts read write Good) {o : Option α}
    (hget : r.get? name = (o.map write).map Json.normalize) (ho : ∀ a ∈ o, Good a) :
    r.optional name read = .ok o := by
  rw [Record.optional, Record.withDefault, hget]
  cases o with
  | none => rfl
  | some a =>
    have hnull : Source.isNull (write a).normalize = false := by
      rw [Json.isNull_normalize, h.notNull a (ho a rfl)]
    change nullable read (write a).normalize = _
    rw [nullable, hnull, h.read_write a (ho a rfl)]
    rfl

theorem Inverts.yields_required (h : Inverts read write Good) (hr : r.IsFinite) (name : String) :
    Yields Good (r.required name read) := by
  unfold Record.required
  split
  · next j hj => exact h.yields j (hr name j hj)
  · exact .error

theorem Inverts.yields_withDefault (h : Inverts read write Good) (hr : r.IsFinite)
    (name : String) {default : α} (hdefault : Good default) :
    Yields Good (r.withDefault name default read) := by
  unfold Record.withDefault
  split
  · next j hj => exact h.yields j (hr name j hj)
  · exact .pure hdefault

theorem Inverts.yields_optional (h : Inverts read write Good) (hr : r.IsFinite) (name : String) :
    Yields (fun o => ∀ a ∈ o, Good a) (r.optional name read) := by
  have hnone : Yields (fun o : Option α => ∀ a ∈ o, Good a) (.ok none) :=
    .pure fun _ hmem => nomatch hmem
  unfold Record.optional Record.withDefault
  split
  · next j hj =>
    unfold nullable
    split
    · exact hnone
    · refine (h.yields j (hr name j hj)).map fun a ha b hb => ?_
      rwa [← Option.some.inj hb]
  · exact hnone

end Fields

section Objects

variable {names : List String} {write : α → Json} {Good : α → Prop}
  {read : Record Json → Decoded α} (slots : α → List (String × Option Json))

/-- A record is read and written field by field. -/
theorem Inverts.of_namedRecord (hwrite : ∀ a, write a = Json.ofSlots (slots a))
    (hslots : ∀ a, (slots a).map (·.1) = names) (hnames : names.Nodup)
    (hread : ∀ a r, Good a → r.Holds (slots a) → read r = .ok a)
    (hyields : ∀ r, r.IsFinite → Yields Good (read r)) :
    Inverts (fun j => namedRecord names j >>= read) write Good where
  notNull a _ := by rw [hwrite]; rfl
  read_write a ha := by
    obtain ⟨r, hr, hholds⟩ := exists_namedRecord (hslots a) hnames
    rw [hwrite, hr]
    exact hread a r ha hholds
  yields _ hj := (yields_namedRecord names hj).bind hyields

theorem Inverts.of_record (hwrite : ∀ a, write a = Json.ofSlots (slots a))
    (hslots : ∀ a, (slots a).map (·.1) = names) (hnames : names.Nodup)
    (hread : ∀ a r, Good a → r.Holds (slots a) → read r = .ok a)
    (hyields : ∀ r, r.IsFinite → Yields Good (read r)) :
    Inverts (fun j => record names j >>= read) write Good where
  notNull a _ := by rw [hwrite]; rfl
  read_write a ha := by
    have hobject :=
      (Inverts.of_namedRecord slots hwrite hslots hnames hread hyields).read_write a ha
    rw [hwrite] at hobject ⊢
    exact hobject
  yields _ hj := (yields_record names hj).bind hyields

end Objects

end Decode

end MeshControl
