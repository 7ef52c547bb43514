import MeshControl.Decimal.Shortest

/-!
Reading decimal numbers: a sign, digits with an optional point, at least one digit in all,
and an optional exponent. The value is the double nearest to the number written.
-/
namespace MeshControl.Decimal

structure Written where
  negative : Bool
  decimal : Numeral
deriving DecidableEq, Repr

def isDigit (c : Char) : Bool := c.isDigit

def digitValue (c : Char) : Nat := c.toNat - '0'.toNat

/-- The number that a list of digits writes. -/
def digitsValue (cs : List Char) : Nat := cs.foldl (fun n c => 10 * n + digitValue c) 0

def splitSign : List Char → Bool × List Char
  | '-' :: cs => (true, cs)
  | '+' :: cs => (false, cs)
  | cs => (false, cs)

/-- A non-empty run of digits that is the whole list. -/
def allDigits? (cs : List Char) : Option Nat :=
  if cs ≠ [] ∧ cs.all isDigit then some (digitsValue cs) else none

theorem allDigits?_toString (n : Nat) : allDigits? (toString n).toList = some n := by
  have htext : (toString n).toList = Nat.toDigits 10 n := by
    rw [Nat.toString_eq_repr, Nat.toList_repr]
  have hdigits : (Nat.toDigits 10 n).all isDigit = true :=
    List.all_eq_true.mpr fun c hc => Nat.isDigit_of_mem_toDigits (by decide) (by decide) hc
  rw [htext, allDigits?, if_pos ⟨Nat.toDigits_ne_nil, hdigits⟩]
  exact congrArg some (@Nat.ofDigitChars_ten_toDigits n)

def readExponent : List Char → Option Int
  | [] => some 0
  | c :: cs =>
    if c = 'e' ∨ c = 'E' then
      let (negative, digits) := splitSign cs
      (allDigits? digits).map fun n => if negative then -(n : Int) else n
    else none

def read (cs : List Char) : Option Written :=
  let (negative, cs) := splitSign cs
  let whole := cs.takeWhile isDigit
  let rest := cs.dropWhile isDigit
  let (fraction, rest) := match rest with
    | '.' :: after => (after.takeWhile isDigit, after.dropWhile isDigit)
    | _ => ([], rest)
  if whole ++ fraction = [] then none
  else (readExponent rest).map fun e =>
    ⟨negative, ⟨digitsValue (whole ++ fraction), e - fraction.length⟩⟩

/-- The nearest double. Exponents that leave the range of doubles for sure are not expanded. -/
def Numeral.toFloat (d : Numeral) : Float :=
  if d.digits = 0 then 0.0
  else
    let magnitude := d.exponent + (Nat.log2 d.digits : Int) * 30103 / 100000
    if 400 < magnitude then 1.0 / 0.0
    else if magnitude < -400 then 0.0
    else if 0 ≤ d.exponent then Float.ofScientific d.digits false d.exponent.toNat
    else Float.ofScientific d.digits true (-d.exponent).toNat

def Written.toFloat (w : Written) : Float :=
  if w.negative then -w.decimal.toFloat else w.decimal.toFloat

end MeshControl.Decimal
