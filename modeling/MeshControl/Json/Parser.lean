import MeshControl.Json.Document

/-!
The value of a JSON document: escapes and digits interpreted, the fields of every object
sorted, the last of repeated fields kept.
-/
namespace MeshControl.Json

def hexValue (b : UInt8) : Nat :=
  if b ≤ 57 then b.toNat - 48 else if b ≤ 70 then b.toNat - 55 else b.toNat - 87

def hexWord (a b c d : UInt8) : Nat :=
  ((hexValue a * 16 + hexValue b) * 16 + hexValue c) * 16 + hexValue d

def charOctets (n : Nat) : Octets := (String.singleton (Char.ofNat n)).toUTF8.toList

/-- Replaces escapes by the octets they stand for. Two halves of a pair of surrogates make one
character; a half alone makes none. -/
def unescape : Octets → Option Octets
  | [] => some []
  | 92 :: 117 :: a :: b :: c :: d :: rest =>
    let n := hexWord a b c d
    if 0xdc00 ≤ n ∧ n ≤ 0xdfff then none
    else if 0xd800 ≤ n ∧ n ≤ 0xdbff then
      match rest with
      | 92 :: 117 :: e :: f :: g :: h :: rest =>
        let low := hexWord e f g h
        if 0xdc00 ≤ low ∧ low ≤ 0xdfff then
          let point := 0x10000 + (n - 0xd800) * 0x400 + (low - 0xdc00)
          (unescape rest).map (charOctets point ++ ·)
        else none
      | _ => none
    else (unescape rest).map (charOctets n ++ ·)
  | 92 :: e :: rest =>
    let b : UInt8 :=
      if e = 98 then 8 else if e = 102 then 12 else if e = 110 then 10
      else if e = 114 then 13 else if e = 116 then 9 else e
    (unescape rest).map (b :: ·)
  | b :: rest => (unescape rest).map (b :: ·)

/-- The text of some octets, none if they are not UTF-8. -/
def utf8? (s : Octets) : Option String := String.fromUTF8? ⟨s.toArray⟩

def textOf? (octets : Octets) : Option String := (unescape octets).bind utf8?

mutual
/-- The value of a document whose arrays and objects nest at most `depth` deep. -/
def Document.value? (depth : Nat) : Document → Option Json
  | .null => some .null
  | .bool b => some (.bool b)
  | .number t => t.value?
  | .text s => (textOf? s).map .str
  | .array items =>
    if depth = 0 then none else (itemValues? (depth - 1) items).map .arr
  | .object fields =>
    if depth = 0 then none
    else (fieldValues? (depth - 1) fields).map fun fs => .obj (sortFields fs)

def itemValues? (depth : Nat) : List Document → Option (List Json)
  | [] => some []
  | d :: ds => do
    let j ← d.value? depth
    let js ← itemValues? depth ds
    some (j :: js)

def fieldValues? (depth : Nat) : List (Octets × Document) → Option (List (String × Json))
  | [] => some []
  | (k, d) :: ds => do
    let name ← textOf? k
    let j ← d.value? depth
    let js ← fieldValues? depth ds
    some ((name, j) :: js)
end

/-- How deep arrays and objects may nest in a text that is read. -/
def depthLimit : Nat := 127

def parse? (s : String) : Option Json :=
  (Document.ofOctets? s.toUTF8.toList).bind (·.value? depthLimit)

end MeshControl.Json
