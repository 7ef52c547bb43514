import MeshControl.Shape
import MeshControl.Yaml.Value

/-!
YAML as a source of typed values, in two ways. As data, a scalar is first given its meaning,
and a text is read only from a scalar that means one. As written, the type that is asked for
decides: any scalar can be read as a text, also one that looks like a number, and nothing at all
stands for an empty list or record.
-/
namespace MeshControl.Yaml

namespace Value

def asFields? (entries : List (Value × Value)) : Option (List (String × Value)) :=
  entries.mapM fun (k, v) => (asText? k).map fun name => (name, v)

instance : Source Value where
  isNull v := match v with
    | .null => true
    | _ => false
  text? := asText?
  integer? v := match untagged v with
    | .int n => some n
    | _ => none
  number? v := match untagged v with
    | .int n => some (Json.floatOfInt n)
    | .float x => some x
    | _ => none
  items? v := match untagged v with
    | .sequence items => some items
    | _ => none
  fields? v := match untagged v with
    | .mapping entries => asFields? entries
    | _ => none
  choice? v := match v with
    | .text s => some (s, none)
    | .tagged name content => some (name, some content)
    | _ => none

end Value

namespace Node

def asText? : Node → Option String
  | .scalar _ _ s => some s
  | _ => none

/-- A plain scalar without text, tagged or not. -/
def isBlank : Node → Bool
  | .scalar _ .plain s => s.isEmpty
  | _ => false

def isNull : Node → Bool
  | .scalar none .plain s => s.isEmpty || Plain.isNull s
  | .scalar (some tag) .plain s => tag = Value.standardTag "null" && Plain.isNull s
  | _ => false

/-- The text of a scalar that may be a number of some kind: a plain one, or a literal one whose
tag says so. -/
def numeral? (kind : String) : Node → Option String
  | .scalar _ .plain s => some s
  | .scalar (some tag) .literal s => if tag = Value.standardTag kind then some s else none
  | _ => none

def integerOf? (s : String) : Option Int :=
  match Plain.natural? s with
  | some n => some n
  | none => ((Plain.negated? s).filter (0 < ·)).map fun n => -(n : Int)

def tag? : Node → Option String
  | .scalar tag _ _ => tag
  | .sequence tag _ => tag
  | .mapping tag _ => tag
  | .loop => none

def withoutTag : Node → Node
  | .scalar _ style s => .scalar none style s
  | .sequence _ items => .sequence none items
  | .mapping _ entries => .mapping none entries
  | .loop => .loop

def asChoice? (n : Node) : Option (String × Option Node) :=
  match Value.localTag? n.tag? with
  | some name => some (name, some n.withoutTag)
  | none => n.asText?.map fun s => (s, none)

instance : Source Node where
  isNull := isNull
  text? := asText?
  integer? n := (n.numeral? "int").bind integerOf?
  number? n := (n.numeral? "float").bind Plain.float?
  items? n := match n with
    | .sequence _ items => some items
    | _ => if n.isBlank then some [] else none
  fields? n := match n with
    | .mapping _ entries =>
      entries.mapM fun (k, v) => k.asText?.map fun name => (name, v)
    | _ => if n.isBlank then some [] else none
  choice? := asChoice?

/-- A tree as data for a part of a record that is read together with other parts. Keys may
repeat, tags may not occur. -/
def plainData (n : Node) : Decoded Value :=
  match n.value? false Value.depthLimit with
  | some v => if v.isTagFree then .ok v else .error .malformed
  | none => .error .malformed

end Node

end MeshControl.Yaml
