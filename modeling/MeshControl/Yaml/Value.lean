import MeshControl.Yaml.Document
import MeshControl.Yaml.Plain

/-!
YAML documents as data: every scalar has become the null, the truth value, the number or the
text it means. A mapping as data has no key twice.
-/
namespace MeshControl.Yaml

inductive Value where
  | null
  | bool (b : Bool)
  | int (n : Int)
  | float (x : Float)
  | text (s : String)
  | sequence (items : List Value)
  | mapping (entries : List (Value × Value))
  | tagged (tag : String) (content : Value)
deriving Inhabited

namespace Value

mutual
/-- Equality of keys. All doubles that are no numbers are equal. -/
def same : Value → Value → Bool
  | .null, .null => true
  | .bool a, .bool b => a == b
  | .int a, .int b => a == b
  | .float a, .float b => a == b || (a.isNaN && b.isNaN)
  | .text a, .text b => a == b
  | .sequence a, .sequence b => sameItems a b
  | .mapping a, .mapping b => sameEntries a b
  | .tagged s a, .tagged t b => s == t && same a b
  | _, _ => false

def sameItems : List Value → List Value → Bool
  | [], [] => true
  | a :: as, b :: bs => same a b && sameItems as bs
  | _, _ => false

def sameEntries : List (Value × Value) → List (Value × Value) → Bool
  | [], [] => true
  | (k, a) :: as, (l, b) :: bs => same k l && same a b && sameEntries as bs
  | _, _ => false
end

def repeatsKey : List (Value × Value) → Bool
  | [] => false
  | (k, _) :: rest => rest.any (same k ·.1) || repeatsKey rest

/-- The value without its tags. -/
def untagged : Value → Value
  | .tagged _ v => untagged v
  | v => v

def ofMeaning (s : String) : Plain.Meaning → Value
  | .null => .null
  | .truth b => .bool b
  | .integer n => .int n
  | .float x => .float x
  | .text => .text s

def ofPlain? (s : String) : Option Value := (Plain.meaning? s).map (ofMeaning s)

def standardTag (name : String) : String := "tag:yaml.org,2002:" ++ name

/-- A scalar with a tag: a tag of the standard asks for its own kind of value, any other makes
a text. -/
def ofTagged? (tag s : String) : Option Value :=
  if tag = standardTag "bool" then (Plain.truth? s).map .bool
  else if tag = standardTag "int" then
    match ofPlain? s with
    | some (.int n) => some (.int n)
    | _ => none
  else if tag = standardTag "float" then (Plain.float? s).map .float
  else if tag = standardTag "null" then if Plain.isNull s then some .null else none
  else some (.text s)

/-- The name of a tag that is not shared between applications. -/
def localTag? (tag : Option String) : Option String :=
  match tag with
  | none => none
  | some t =>
    match t.toList with
    | '!' :: [] => some t
    | '!' :: cs => some (String.ofList cs)
    | _ => none

def withTag (tag : Option String) (v : Value) : Value :=
  match localTag? tag with
  | some name => .tagged name v
  | none => v

/-- The text of a scalar, read by its tag and its style. -/
def ofScalar? (tag : Option String) (style : Style) (s : String) : Option Value :=
  let plain := if style = .plain then ofPlain? s else some (.text s)
  match tag with
  | none => plain
  | some t =>
    if (localTag? tag).isSome then plain.map (withTag tag) else ofTagged? t s

/-- How deep sequences and mappings may nest. -/
def depthLimit : Nat := 128

end Value

mutual
/-- A tree as data. With `distinct` no mapping may have a key twice. -/
def Node.value? (distinct : Bool) (depth : Nat) : Node → Option Value
  | .scalar tag style s => Value.ofScalar? tag style s
  | .sequence tag items =>
    if depth = 0 then none
    else (valuesOf? distinct (depth - 1) items).map fun items =>
      .withTag tag (.sequence items)
  | .mapping tag entries =>
    if depth = 0 then none
    else (entriesOf? distinct (depth - 1) entries).bind fun entries =>
      if distinct && Value.repeatsKey entries then none
      else some (.withTag tag (.mapping entries))
  | .loop => none

def valuesOf? (distinct : Bool) (depth : Nat) : List Node → Option (List Value)
  | [] => some []
  | n :: ns => do
    let v ← n.value? distinct depth
    let vs ← valuesOf? distinct depth ns
    some (v :: vs)

def entriesOf? (distinct : Bool) (depth : Nat) :
    List (Node × Node) → Option (List (Value × Value))
  | [] => some []
  | (k, n) :: ns => do
    let k ← k.value? distinct depth
    let v ← n.value? distinct depth
    let vs ← entriesOf? distinct depth ns
    some ((k, v) :: vs)
end

namespace Value

def ofNode? (n : Node) : Option Value := n.value? true depthLimit

mutual
/-- The value as JSON, none if it has tags or keys that are not texts. Doubles that are no
numbers and infinite ones become null. -/
def json? : Value → Option Json
  | .null => some .null
  | .bool b => some (.bool b)
  | .int n => some (.int n)
  | .float x => some (.double x)
  | .text s => some (.str s)
  | .sequence items => (jsonItems? items).map .arr
  | .mapping entries => (jsonFields? entries).map fun fields => .obj (Json.sortFields fields)
  | .tagged _ _ => none

def jsonItems? : List Value → Option (List Json)
  | [] => some []
  | v :: vs => do
    let j ← json? v
    let js ← jsonItems? vs
    some (j :: js)

def jsonFields? : List (Value × Value) → Option (List (String × Json))
  | [] => some []
  | (k, v) :: vs => do
    let name ← match untagged k with
      | .text s => some s
      | _ => none
    let j ← json? v
    let js ← jsonFields? vs
    some ((name, j) :: js)
end

mutual
def isTagFree : Value → Bool
  | .sequence items => areTagFree items
  | .mapping entries => entriesTagFree entries
  | .tagged _ _ => false
  | _ => true

def areTagFree : List Value → Bool
  | [] => true
  | v :: vs => isTagFree v && areTagFree vs

def entriesTagFree : List (Value × Value) → Bool
  | [] => true
  | (k, v) :: vs => isTagFree k && isTagFree v && entriesTagFree vs
end

/-- The value of a key of a mapping. -/
def get? (v : Value) (name : String) : Option Value :=
  match untagged v with
  | .mapping entries => (entries.find? (same (.text name) ·.1)).map (·.2)
  | _ => none

def isNull (v : Value) : Bool :=
  match untagged v with
  | .null => true
  | _ => false

def asText? (v : Value) : Option String :=
  match untagged v with
  | .text s => some s
  | _ => none

end Value

end MeshControl.Yaml
