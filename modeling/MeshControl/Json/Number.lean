import MeshControl.Json.Basic
import MeshControl.Decimal.Read

/-!
The numbers of JSON texts. Whole numbers between the least 64-bit signed and the greatest
64-bit unsigned integer are integers. All others are doubles: as many leading digits as fit
into 64 bits are taken as an integer, and that is scaled by a power of ten in one rounded
multiplication or division.
-/
namespace MeshControl.Json

/-- A number as written, its digits unread. -/
structure NumberText where
  negative : Bool
  whole : List Char
  fraction : Option (List Char)
  exponent : Option Int
deriving DecidableEq, Repr

def wordLimit : Nat := UInt64.size

/-- Reads digits while the result stays below the limit. Gives the digits left over. -/
def takeWord : Nat → List Char → Nat × List Char
  | n, [] => (n, [])
  | n, c :: cs =>
    let next := 10 * n + Decimal.digitValue c
    if next < wordLimit then takeWord next cs else (n, c :: cs)

theorem takeWord_lt {n : Nat} (h : n < wordLimit) (cs : List Char) :
    (takeWord n cs).1 < wordLimit := by
  induction cs generalizing n with
  | nil => simpa [takeWord] using h
  | cons c cs ih =>
    simp only [takeWord]
    split
    · next hlt => exact ih hlt
    · exact h

/-- Ten to the `e`, correctly rounded. -/
def powerOfTen (e : Nat) : Float := Float.ofScientific 1 false e

/-- Divides by ten to the 308 until the exponent is in reach or nothing is left. -/
def shrink : Nat → Float → Nat → Float
  | 0, _, _ => 0.0
  | fuel + 1, f, e =>
    if e ≤ 308 then f / powerOfTen e
    else if f == 0.0 then f
    else shrink fuel (f / powerOfTen 308) (e - 308)

/-- An integer below 2^64 times a power of ten, none if that is beyond the doubles. -/
def scaled? (significand : Nat) (exponent : Int) : Option Float :=
  let f := (UInt64.ofNat significand).toFloat
  if significand = 0 then some 0.0
  else if exponent < 0 then some (shrink 8 f (-exponent).toNat)
  else if exponent ≤ 308 then
    let x := f * powerOfTen exponent.toNat
    if x.isInf then none else some x
  else none

def NumberText.float? (t : NumberText) : Option Float :=
  let (significand, dropped) := takeWord 0 t.whole
  let (significand, used) := match t.fraction with
    | none => (significand, 0)
    | some digits =>
      let (n, rest) := takeWord significand digits
      (n, digits.length - rest.length)
  let exponent := (dropped.length : Int) - used + t.exponent.getD 0
  (scaled? significand exponent).map fun x => if t.negative then -x else x

/-- The value of a number, none if it is beyond the doubles. -/
def NumberText.value? (t : NumberText) : Option Json :=
  if t.fraction.isSome || t.exponent.isSome then t.float?.map .float
  else
    let n := Decimal.digitsValue t.whole
    if t.negative then
      if 0 < n ∧ n ≤ Nat.pow 2 63 then some (.int (-(n : Int))) else t.float?.map .float
    else if n < wordLimit then some (.int n)
    else t.float?.map .float

end MeshControl.Json
