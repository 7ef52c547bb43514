import MeshControl.Table

/-!
Reading typed values from untyped ones. A source is anything that can be looked at as a null,
a text, a number, a list, a list of fields or a choice between named alternatives; the readers
for records, lists and tables work on every source alike.
-/
namespace MeshControl

/-- Why a value was not read: it has the wrong shape, or it holds a duration outside the range
of durations. -/
inductive DecodeError where
  | malformed
  | durationRange
deriving DecidableEq, Repr, Inhabited

abbrev Decoded := Except DecodeError

class Source (δ : Type) where
  isNull : δ → Bool
  text? : δ → Option String
  integer? : δ → Option Int
  number? : δ → Option Float
  items? : δ → Option (List δ)
  fields? : δ → Option (List (String × δ))
  choice? : δ → Option (String × Option δ)

namespace Decode

variable {δ α : Type} [Source δ]

def malformed : Decoded α := .error .malformed

def ofOption (o : Option α) : Decoded α :=
  match o with
  | some a => .ok a
  | none => malformed

def text (d : δ) : Decoded String := ofOption (Source.text? d)

def integerIn (lo hi : Int) (d : δ) : Decoded Int :=
  match Source.integer? d with
  | some n => if lo ≤ n ∧ n ≤ hi then .ok n else malformed
  | none => malformed

def int32 (d : δ) : Decoded Int := integerIn Int32.minValue.toInt Int32.maxValue.toInt d

def int64 (d : δ) : Decoded Int := integerIn Int64.minValue.toInt Int64.maxValue.toInt d

/-- A natural number below two to the `bits`. -/
def natBits (bits : Nat) (d : δ) : Decoded Nat :=
  (integerIn 0 (Nat.pow 2 bits - 1) d).map Int.toNat

def number (d : δ) : Decoded Float := ofOption (Source.number? d)

def each (dec : δ → Decoded α) : List δ → Decoded (List α)
  | [] => .ok []
  | d :: ds =>
    match dec d with
    | .error e => .error e
    | .ok a =>
      match each dec ds with
      | .error e => .error e
      | .ok as => .ok (a :: as)

theorem each_eq_bind {σ : Type} (dec : σ → Decoded α) (d : σ) (ds : List σ) :
    each dec (d :: ds) = dec d >>= fun a => each dec ds >>= fun as => pure (a :: as) := by
  rw [each]
  cases dec d with
  | error e => rfl
  | ok a => cases each dec ds <;> rfl

def list (dec : δ → Decoded α) (d : δ) : Decoded (List α) :=
  match Source.items? d with
  | some ds => each dec ds
  | none => malformed

/-- Null stands for the absent value. -/
def nullable (dec : δ → Decoded α) (d : δ) : Decoded (Option α) :=
  if Source.isNull d then .ok none else (dec d).map some

def entries (dec : δ → Decoded α) : List (String × δ) → Decoded (List (String × α))
  | [] => .ok []
  | (k, d) :: ds =>
    match dec d with
    | .error e => .error e
    | .ok a =>
      match entries dec ds with
      | .error e => .error e
      | .ok as => .ok ((k, a) :: as)

def table (dec : δ → Decoded α) (d : δ) : Decoded (Table α) :=
  match Source.fields? d with
  | some ds => (entries dec ds).map Table.ofList
  | none => malformed

/-- One of some names without a payload. -/
def name (names : List (String × α)) (d : δ) : Decoded α :=
  match Source.choice? d with
  | some (n, payload) =>
    if payload.all Source.isNull then ofOption (Entries.find? n names) else malformed
  | none => malformed

/-- The fields of a record that are given. -/
def Record (δ : Type) : Type := List (String × δ)

def repeated (names : List String) : List (String × δ) → Bool
  | [] => false
  | (k, _) :: rest => (names.contains k && rest.any (·.1 == k)) || repeated names rest

/-- A record given by named fields, where fields with other names are passed over. -/
def namedRecord (names : List String) (d : δ) : Decoded (Record δ) :=
  match Source.fields? d with
  | some fields =>
    if repeated names fields then malformed else .ok (fields.filter (names.contains ·.1))
  | none => malformed

/-- A record given by named fields or by the list of its fields in their order. -/
def record (names : List String) (d : δ) : Decoded (Record δ) :=
  match Source.items? d with
  | some items => if items.length ≤ names.length then .ok (names.zip items) else malformed
  | none => namedRecord names d

namespace Record

def get? (r : Record δ) (name : String) : Option δ := Entries.find? name r

def required (r : Record δ) (name : String) (dec : δ → Decoded α) : Decoded α :=
  match r.get? name with
  | some d => dec d
  | none => malformed

def withDefault (r : Record δ) (name : String) (default : α) (dec : δ → Decoded α) :
    Decoded α :=
  match r.get? name with
  | some d => dec d
  | none => .ok default

/-- A field that may be left out or null. -/
def optional (r : Record δ) (name : String) (dec : δ → Decoded α) : Decoded (Option α) :=
  r.withDefault name none (nullable dec)

end Record

end Decode

end MeshControl
