import MeshControl.Decimal.Read
import MeshControl.Text.Split

/-!
Addresses of the Internet Protocol, versions 4 and 6, and their texts. In the text of a version
6 address the longest run of at least two zero groups is left out, the first one if several are
of that length.
-/
namespace MeshControl

inductive Address where
  | v4 (a b c d : Nat)
  /-- Eight groups of 16 bits. -/
  | v6 (groups : List Nat)
deriving DecidableEq, Repr, Inhabited

namespace Address

/-! ### Writing -/

def quadText (a b c d : Nat) : String := s!"{a}.{b}.{c}.{d}"

def hexText (n : Nat) : String := String.ofList (Nat.toDigits 16 n)

def groupsText (groups : List Nat) : String := Text.join ":" (groups.map hexText)

/-- The length of the run of zeros at the head. -/
def zerosAhead (groups : List Nat) : Nat := (groups.takeWhile (· == 0)).length

/-- The start and the length of the longest run of zeros, found at or after position `i`. -/
def longestZeros (i : Nat) : List Nat → Nat × Nat
  | [] => (i, 0)
  | g :: gs =>
    let here := zerosAhead (g :: gs)
    let later := longestZeros (i + 1) gs
    if later.2 ≤ here then (i, here) else later

def v6Text (groups : List Nat) : String :=
  match groups with
  | [0, 0, 0, 0, 0, 0xffff, x, y] =>
    "::ffff:" ++ quadText (x / 256) (x % 256) (y / 256) (y % 256)
  | _ =>
    let (start, length) := longestZeros 0 groups
    if 1 < length then
      groupsText (groups.take start) ++ "::" ++ groupsText (groups.drop (start + length))
    else groupsText groups

def text : Address → String
  | v4 a b c d => quadText a b c d
  | v6 groups => v6Text groups

/-! ### Reading -/

/-- An octet without leading zeros, and the rest. -/
def readOctet (cs : List Char) : Option (Nat × List Char) :=
  let digits := (cs.take 3).takeWhile Char.isDigit
  let n := Decimal.digitsValue digits
  if digits = [] ∨ 255 < n ∨ (1 < digits.length ∧ digits.head? = some '0') then none
  else some (n, cs.drop digits.length)

def readDot : List Char → Option (List Char)
  | '.' :: cs => some cs
  | _ => none

def readQuad (cs : List Char) : Option ((Nat × Nat × Nat × Nat) × List Char) := do
  let (a, cs) ← readOctet cs
  let (b, cs) ← readOctet (← readDot cs)
  let (c, cs) ← readOctet (← readDot cs)
  let (d, cs) ← readOctet (← readDot cs)
  return ((a, b, c, d), cs)

def isHexDigit (c : Char) : Bool :=
  c.isDigit || ('a' ≤ c && c ≤ 'f') || ('A' ≤ c && c ≤ 'F')

def hexDigitValue (c : Char) : Nat :=
  if c.isDigit then c.toNat - 48 else if 'a' ≤ c then c.toNat - 87 else c.toNat - 55

def readGroup (cs : List Char) : Option (Nat × List Char) :=
  let digits := (cs.take 4).takeWhile isHexDigit
  if digits = [] then none
  else some (digits.foldl (fun n c => 16 * n + hexDigitValue c) 0, cs.drop digits.length)

/-- The characters after the colon that stands before every group but the first. -/
def afterColon (first : Bool) (cs : List Char) : Option (List Char) :=
  if first then some cs
  else match cs with
    | ':' :: cs => some cs
    | _ => none

/-- Reads up to `room` groups. A version 4 address counts as two and ends them. The flag says
whether there was one. -/
def readGroups (first : Bool) : Nat → List Char → List Nat × Bool × List Char
  | 0, cs => ([], false, cs)
  | room + 1, cs =>
    match if 0 < room then (afterColon first cs).bind readQuad else none with
    | some ((a, b, c, d), cs) => ([a * 256 + b, c * 256 + d], true, cs)
    | none =>
      match (afterColon first cs).bind readGroup with
      | some (g, cs) =>
        let (gs, quad, cs) := readGroups false room cs
        (g :: gs, quad, cs)
      | none => ([], false, cs)

def readV6 (cs : List Char) : Option (List Nat × List Char) :=
  let (head, quad, cs) := readGroups true 8 cs
  if head.length = 8 then some (head, cs)
  else if quad then none
  else match cs with
    | ':' :: ':' :: cs =>
      let (tail, _, cs) := readGroups true (7 - head.length) cs
      some (head ++ List.replicate (8 - head.length - tail.length) 0 ++ tail, cs)
    | _ => none

def ofText? (s : String) : Option Address :=
  match readQuad s.toList with
  | some ((a, b, c, d), []) => some (v4 a b c d)
  | some _ => none
  | none =>
    match readV6 s.toList with
    | some (groups, []) => some (v6 groups)
    | _ => none

end Address

end MeshControl
