import MeshControl.Json.Parser
import MeshControl.Shape

/-!
JSON values and JSON documents as sources of typed values. A whole number may stand for a double
but not the other way round; a choice is a text, or an object with one field that names it. Of a
document only the parts that are asked for are interpreted.
-/
namespace MeshControl.Json

def asInteger? : Json → Option Int
  | .int n => some n
  | _ => none

/-- The double nearest to a 64-bit integer. -/
def floatOfInt (n : Int) : Float :=
  if n < 0 then -(UInt64.ofNat n.natAbs).toFloat else (UInt64.ofNat n.toNat).toFloat

def asNumber? : Json → Option Float
  | .int n => some (floatOfInt n)
  | .float x => some x
  | _ => none

def asChoice? : Json → Option (String × Option Json)
  | .str s => some (s, none)
  | .obj [(k, v)] => some (k, some v)
  | _ => none

instance : Source Json where
  isNull j := match j with
    | .null => true
    | _ => false
  text? j := match j with
    | .str s => some s
    | _ => none
  integer? := asInteger?
  number? := asNumber?
  items? j := match j with
    | .arr items => some items
    | _ => none
  fields? j := match j with
    | .obj fields => some fields
    | _ => none
  choice? := asChoice?

namespace Document

def text? : Document → Option String
  | .text s => textOf? s
  | _ => none

def number? : Document → Option Json
  | .number t => t.value?
  | _ => none

def fields? : Document → Option (List (String × Document))
  | .object fields => fields.mapM fun (k, d) => (textOf? k).map fun name => (name, d)
  | _ => none

def choice? : Document → Option (String × Option Document)
  | .text s => (textOf? s).map fun name => (name, none)
  | .object [(k, d)] => (textOf? k).map fun name => (name, some d)
  | _ => none

instance : Source Document where
  isNull d := match d with
    | .null => true
    | _ => false
  text? := text?
  integer? d := d.number?.bind asInteger?
  number? d := d.number?.bind asNumber?
  items? d := match d with
    | .array items => some items
    | _ => none
  fields? := fields?
  choice? := choice?

end Document

end MeshControl.Json
