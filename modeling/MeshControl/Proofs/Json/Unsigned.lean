import Mathlib
import MeshControl.Json.Source

/-!
Values without the signs of their zeros. Comparison takes the two zeros for one, so values that it
calls equal are the same once zeros have no sign. Readers that are put together from blind ones, to
which signs make no difference but in the numbers they find, are blind themselves.
-/
namespace MeshControl

/-! ### Values -/

/-- A number without the sign of a zero. -/
def unsigned (x : Float) : Float := if x == 0 then 0 else x

-- What Batteries proves about doubles is had only with the whole of Mathlib.
theorem unsigned_eq_of_beq {x y : Float} (h : (x == y) = true) : unsigned x = unsigned y := by
  obtain ⟨-, -, rfl | ⟨rfl, rfl⟩ | ⟨rfl, rfl⟩⟩ := Float.beq_iff_ne_nan_and_eq.mp h
  · rfl
  · decide
  · decide

namespace Json

mutual
/-- A value whose zeros have no sign. -/
def plain : Json → Json
  | .float x => .float (unsigned x)
  | .arr items => .arr (plainItems items)
  | .obj fields => .obj (plainFields fields)
  | j => j

def plainItems : List Json → List Json
  | [] => []
  | j :: js => plain j :: plainItems js

def plainFields : List (String × Json) → List (String × Json)
  | [] => []
  | (k, j) :: fs => (k, plain j) :: plainFields fs
end

theorem plainItems_eq (items : List Json) : plainItems items = items.map plain := by
  induction items with
  | nil => rfl
  | cons j js ih => rw [plainItems, ih, List.map_cons]

theorem plainFields_eq (fields : List (String × Json)) :
    plainFields fields = fields.map fun (k, j) => (k, j.plain) := by
  induction fields with
  | nil => rfl
  | cons e fs ih => rw [plainFields, ih, List.map_cons]

mutual
theorem plain_eq_of_same {i j : Json} (h : same i j = true) : i.plain = j.plain := by
  cases i <;> cases j <;> try exact absurd h Bool.false_ne_true
  case null.null => rfl
  case bool.bool | int.int | str.str => simp_all [same]
  case float.float x y => rw [plain, plain, unsigned_eq_of_beq h]
  case arr.arr a b => rw [plain, plain, plainItems_eq_of_same h]
  case obj.obj a b => rw [plain, plain, plainFields_eq_of_same h]
termination_by sizeOf i

theorem plainItems_eq_of_same {a b : List Json} (h : sameItems a b = true) :
    plainItems a = plainItems b := by
  match a, b with
  | [], [] => rfl
  | [], _ :: _ | _ :: _, [] => exact absurd h Bool.false_ne_true
  | i :: a, j :: b =>
    simp only [sameItems, Bool.and_eq_true] at h
    rw [plainItems, plainItems, plain_eq_of_same h.1, plainItems_eq_of_same h.2]
termination_by sizeOf a

theorem plainFields_eq_of_same {a b : List (String × Json)} (h : sameFields a b = true) :
    plainFields a = plainFields b := by
  match a, b with
  | [], [] => rfl
  | [], _ :: _ | _ :: _, [] => exact absurd h Bool.false_ne_true
  | (k, i) :: a, (l, j) :: b =>
    simp only [sameFields, Bool.and_eq_true, beq_iff_eq] at h
    rw [plainFields, plainFields, h.1.1, plain_eq_of_same h.1.2, plainFields_eq_of_same h.2]
termination_by sizeOf a
end

end Json

/-! ### Readers -/

namespace Decode

variable {α β γ δ : Type}

/-- A reader finds the same in a value without signs, as far as the view of it goes. -/
def Blind (view : α → β) (dec : Json → Decoded α) : Prop :=
  ∀ j, (dec j.plain).map view = (dec j).map view

theorem Blind.of_eq {dec : Json → Decoded α} (h : ∀ j, dec j.plain = dec j) : Blind id dec := by
  intro j
  rw [h]

theorem Blind.eq {dec : Json → Decoded α} (h : Blind id dec) (j : Json) : dec j.plain = dec j := by
  have hid : ∀ x : Decoded α, x.map id = x := fun x => by cases x <;> rfl
  rw [← hid (dec j.plain), h, hid]

theorem blind_text : Blind id text := .of_eq fun j => by cases j <;> rfl

theorem integer?_plain (j : Json) : Source.integer? j.plain = Source.integer? j := by
  cases j <;> rfl

theorem blind_integerIn (lo hi : Int) : Blind id (integerIn lo hi) := .of_eq fun j => by
  rw [integerIn, integerIn, integer?_plain]

theorem blind_natBits (bits : Nat) : Blind id (natBits bits) := .of_eq fun j => by
  rw [natBits, natBits, (blind_integerIn _ _).eq]

theorem blind_number : Blind unsigned number := by
  have hagain : ∀ x, unsigned (unsigned x) = unsigned x := by
    intro x
    by_cases hx : (x == 0) = true
    · rw [unsigned_eq_of_beq hx]
      decide
    · have hsame : unsigned x = x := if_neg hx
      rw [hsame, hsame]
  intro j
  cases j with
  | float x => exact congrArg Except.ok (hagain x)
  | null | bool _ | int _ | str _ | arr _ | obj _ => rfl

/-- Steps that agree as far as their views go are followed by results that do. -/
theorem map_bind_congr {x x' : Decoded α} {f f' : α → Decoded β} (u : α → γ) (v : β → δ)
    (hx : x.map u = x'.map u) (hf : ∀ a a', u a = u a' → (f a).map v = (f' a').map v) :
    (x >>= f).map v = (x' >>= f').map v := by
  cases x with
  | error e =>
    cases x' with
    | error e' => rw [Except.error.inj hx]; rfl
    | ok a' => cases hx
  | ok a =>
    cases x' with
    | error e' => cases hx
    | ok a' => exact hf a a' (Except.ok.inj hx)

theorem Blind.list {view : α → β} {dec : Json → Decoded α} (h : Blind view dec) :
    Blind (List.map view) (Decode.list dec) := by
  have heach : ∀ items : List Json, (each dec (items.map Json.plain)).map (List.map view) =
      (each dec items).map (List.map view) := by
    intro items
    induction items with
    | nil => rfl
    | cons j items ih =>
      rw [List.map_cons, each_eq_bind, each_eq_bind]
      refine map_bind_congr view _ (h j) fun a a' ha => ?_
      refine map_bind_congr (List.map view) _ ih fun as as' has => ?_
      exact congrArg Except.ok (by rw [List.map_cons, List.map_cons, ha, has])
  intro j
  cases j with
  | arr items =>
    rw [Json.plain, Json.plainItems_eq]
    exact heach items
  | null | bool _ | int _ | float _ | str _ | obj _ => rfl

theorem Blind.nullable {view : α → β} {dec : Json → Decoded α} (h : Blind view dec) :
    Blind (Option.map view) (Decode.nullable dec) := by
  have hsome : ∀ j, ((dec j).map some).map (Option.map view) = ((dec j).map view).map some :=
    fun j => by cases dec j <;> rfl
  intro j
  have hnull : Source.isNull j.plain = Source.isNull j := by cases j <;> rfl
  rw [Decode.nullable, Decode.nullable, hnull]
  split
  · rfl
  · rw [hsome, h, ← hsome]

theorem Blind.table {dec : Json → Decoded α} (h : Blind id dec) :
    Blind id (Decode.table dec) := .of_eq fun j => by
  have hentries : ∀ fields : List (String × Json),
      entries dec (fields.map fun (k, j) => (k, j.plain)) = entries dec fields := by
    intro fields
    induction fields with
    | nil => rfl
    | cons e fields ih => rw [List.map_cons, entries, entries, h.eq, ih]
  cases j with
  | obj fields =>
    rw [Json.plain, Json.plainFields_eq]
    exact congrArg (Except.map Table.ofList) (hentries fields)
  | null | bool _ | int _ | float _ | str _ | arr _ => rfl

theorem choice?_plain (j : Json) :
    Source.choice? j.plain =
      (Source.choice? j).map fun (k, payload) => (k, payload.map Json.plain) := by
  match j with
  | .obj [] | .obj (_ :: _ :: _) => rfl
  | .obj [(k, v)] => rfl
  | .null | .bool _ | .int _ | .float _ | .str _ | .arr _ => rfl

theorem blind_name (names : List (String × α)) : Blind id (name names) := .of_eq fun j => by
  have hnull : ∀ payload : Option Json,
      (payload.map Json.plain).all Source.isNull = payload.all Source.isNull := by
    intro payload
    cases payload with
    | none => rfl
    | some v => cases v <;> rfl
  rw [name, name, choice?_plain]
  cases Source.choice? j with
  | none => rfl
  | some c => simp only [Option.map_some, hnull]

/-! ### Records -/

/-- A record whose fields have no signs. -/
def Record.plain (r : Record Json) : Record Json := r.map fun (k, j) => (k, j.plain)

theorem Record.get?_plain (r : Record Json) (name : String) :
    r.plain.get? name = (r.get? name).map Json.plain := by
  rw [get?, get?, plain]
  induction r with
  | nil => rfl
  | cons e r ih =>
    rw [List.map_cons, Entries.find?, Entries.find?]
    split
    · rfl
    · exact ih

theorem Blind.required {view : α → β} {dec : Json → Decoded α} (h : Blind view dec)
    (r : Record Json) (name : String) :
    (r.plain.required name dec).map view = (r.required name dec).map view := by
  rw [Record.required, Record.required, Record.get?_plain]
  cases r.get? name with
  | none => rfl
  | some j => exact h j

theorem Blind.withDefault {view : α → β} {dec : Json → Decoded α} (h : Blind view dec)
    (r : Record Json) (name : String) (default : α) :
    (r.plain.withDefault name default dec).map view =
      (r.withDefault name default dec).map view := by
  rw [Record.withDefault, Record.withDefault, Record.get?_plain]
  cases r.get? name with
  | none => rfl
  | some j => exact h j

theorem Blind.optional {view : α → β} {dec : Json → Decoded α} (h : Blind view dec)
    (r : Record Json) (name : String) :
    (r.plain.optional name dec).map (Option.map view) =
      (r.optional name dec).map (Option.map view) :=
  h.nullable.withDefault r name none

theorem namedRecord_plain (names : List String) (j : Json) :
    namedRecord names j.plain = (namedRecord names j).map Record.plain := by
  have hrepeated : ∀ fields : List (String × Json),
      repeated names (fields.map fun (k, j) => (k, j.plain)) = repeated names fields := by
    intro fields
    induction fields with
    | nil => rfl
    | cons e fields ih =>
      rw [List.map_cons, repeated, repeated, ih, List.any_map]
      rfl
  cases j with
  | obj fields =>
    rw [Json.plain, Json.plainFields_eq]
    change (if repeated names _ then malformed else _) =
      (if repeated names fields then malformed else _).map Record.plain
    rw [hrepeated]
    split
    · rfl
    · exact congrArg Except.ok List.filter_map
  | null | bool _ | int _ | float _ | str _ | arr _ => rfl

theorem record_plain (names : List String) (j : Json) :
    record names j.plain = (record names j).map Record.plain := by
  cases j with
  | arr items =>
    rw [Json.plain, Json.plainItems_eq]
    change (if (items.map Json.plain).length ≤ names.length then _ else malformed) =
      (if items.length ≤ names.length then _ else malformed).map Record.plain
    rw [List.length_map]
    split
    · exact congrArg Except.ok (List.zip_map_right ..)
    · rfl
  | obj fields => exact namedRecord_plain names (.obj fields)
  | null | bool _ | int _ | float _ | str _ => rfl

/-- What a record holds is read field by field. -/
theorem Blind.of_fields {view : α → β} {fields : Json → Decoded (Record Json)}
    {read : Record Json → Decoded α} (hfields : ∀ j, fields j.plain = (fields j).map Record.plain)
    (h : ∀ r, (read r.plain).map view = (read r).map view) :
    Blind view fun j => fields j >>= read := by
  intro j
  change (fields j.plain >>= read).map view = (fields j >>= read).map view
  rw [hfields]
  cases fields j with
  | error e => rfl
  | ok r => exact h r

theorem Blind.of_record {view : α → β} {names : List String} {read : Record Json → Decoded α}
    (h : ∀ r, (read r.plain).map view = (read r).map view) :
    Blind view fun j => record names j >>= read :=
  .of_fields (record_plain names) h

end Decode

end MeshControl
