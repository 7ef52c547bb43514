import MeshControl.Table
import MeshControl.Validation
import MeshControl.Json.Basic
import MeshControl.Shape

/-!
Tags: sets of key-value pairs that select a subset of the instances of a service. In text they
are written `k=v`, or `k` alone when the value is empty, sorted and joined by commas.
-/
namespace MeshControl

structure Tags where
  pairs : Table String
deriving DecidableEq, Inhabited

namespace Tags

def empty : Tags := ⟨Table.empty⟩

def ofList (l : List (String × String)) : Tags := ⟨Table.ofList l⟩

def toList (t : Tags) : List (String × String) := t.pairs.toList

def isEmpty (t : Tags) : Bool := t.pairs.isEmpty

def size (t : Tags) : Nat := t.pairs.size

def get? (t : Tags) (k : String) : Option String := t.pairs.find? k

def insert (t : Tags) (k v : String) : Tags := ⟨t.pairs.insert k v⟩

/-- Every pair of `t` is also in `u`. -/
def subsetOf (t u : Tags) : Bool := t.toList.all fun (k, v) => u.get? k == some v

/-- The order of tag sets as sorted lists of pairs. -/
def compareLists : List (String × String) → List (String × String) → Ordering
  | [], [] => .eq
  | [], _ => .lt
  | _, [] => .gt
  | (k, v) :: as, (l, w) :: bs =>
    (compare k l).then ((compare v w).then (compareLists as bs))

def compare (t u : Tags) : Ordering := compareLists t.toList u.toList

def validate (t : Tags) : Problems :=
  t.toList.flatMap fun (k, v) =>
    problemIf (k.isEmpty || !Validation.isTagPart k) s!"invalid tag key: {Text.quote k}" ++
      problemIf (!Validation.isTagPart v) s!"invalid tag value: {Text.quote v}"

def pairText : String × String → String
  | (k, v) => if v.isEmpty then k else k ++ "=" ++ v

def sortTexts (l : List String) : List String := l.mergeSort fun a b => !textLt b a

def text (t : Tags) : String := Text.join "," (sortTexts (t.toList.map pairText))

/-- Reads the text form. Of pairs with one key the last counts, and empty pairs are passed
over. -/
def ofText (s : String) : Tags :=
  ofList (((Text.split ',' s).filter (!·.isEmpty)).map (Text.splitFirst '='))

def json (t : Tags) : Json := Json.ofTable t.pairs

def decode {δ : Type} [Source δ] (d : δ) : Decoded Tags :=
  (Decode.table Decode.text d).map Tags.mk

end Tags

/-- Alternatives among tag sets. An empty list stands for no condition. -/
abbrev TagsList := List Tags

namespace TagsList

def text (l : TagsList) : String := Text.join ";" (l.map Tags.text)

/-- No condition, or one of the sets is contained in the tags. -/
def hasSubsetOf (l : TagsList) (t : Tags) : Bool := l.isEmpty || l.any (·.subsetOf t)

end TagsList

end MeshControl
