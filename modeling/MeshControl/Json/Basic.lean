import MeshControl.Table

/-!
JSON values. Integers stay apart from doubles: a number written with a fraction or an exponent
is a double even if it is whole. An object is a list of fields; an object that is data rather
than a document about to be written keeps its fields in the order of their names.
-/
namespace MeshControl

inductive Json where
  | null
  | bool (b : Bool)
  | int (n : Int)
  | float (x : Float)
  | str (s : String)
  | arr (items : List Json)
  | obj (fields : List (String × Json))
deriving Inhabited

namespace Json

mutual
/-- Equality of values: doubles are compared as numbers, so the two zeros are equal. -/
def same : Json → Json → Bool
  | .null, .null => true
  | .bool a, .bool b => a == b
  | .int a, .int b => a == b
  | .float a, .float b => a == b
  | .str a, .str b => a == b
  | .arr a, .arr b => sameItems a b
  | .obj a, .obj b => sameFields a b
  | _, _ => false

def sameItems : List Json → List Json → Bool
  | [], [] => true
  | a :: as, b :: bs => same a b && sameItems as bs
  | _, _ => false

def sameFields : List (String × Json) → List (String × Json) → Bool
  | [], [] => true
  | (k, a) :: as, (l, b) :: bs => k == l && same a b && sameFields as bs
  | _, _ => false
end

instance : BEq Json := ⟨same⟩

/-- The fields in the order of their names; of fields with one name the last counts. -/
def sortFields (fields : List (String × Json)) : List (String × Json) :=
  fields.foldl (fun l e => Entries.put textLt e.1 e.2 l) []

def nat (n : Nat) : Json := .int n

/-- A double. One that is not finite has no place in a value, so a null stands for it. -/
def double (x : Float) : Json := if x.isFinite then .float x else .null

/-- An object with the fields that are present. -/
def object (fields : List (Option (String × Json))) : Json := .obj (fields.filterMap id)

def field (name : String) (value : Json) : Option (String × Json) := some (name, value)

/-- A field that is left out when there is no value. -/
def optional (name : String) (value : Option Json) : Option (String × Json) :=
  value.map fun v => (name, v)

/-- A field that is left out when a condition fails. -/
def onlyIf (cond : Bool) (name : String) (value : Json) : Option (String × Json) :=
  if cond then some (name, value) else none

def ofTable (t : Table String) : Json := .obj (t.toList.map fun (k, v) => (k, .str v))

/-- The value of a field of an object. -/
def get? (name : String) : Json → Option Json
  | .obj fields => Entries.find? name fields
  | _ => none

mutual
/-- The value as data: the fields of every object in the order of their names. -/
def normalize : Json → Json
  | .arr items => .arr (normalizeItems items)
  | .obj fields => .obj (sortFields (normalizeFields fields))
  | j => j

def normalizeItems : List Json → List Json
  | [] => []
  | j :: js => normalize j :: normalizeItems js

def normalizeFields : List (String × Json) → List (String × Json)
  | [] => []
  | (k, j) :: fs => (k, normalize j) :: normalizeFields fs
end

end Json

end MeshControl
