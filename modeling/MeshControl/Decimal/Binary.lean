/-!
Doubles as exact dyadic numbers. A finite double is a sign, a mantissa below 2^53 and a power
of two; its value is the mantissa times that power.
-/
namespace MeshControl.Decimal

structure Dyadic where
  negative : Bool
  mantissa : Nat
  exponent : Int
deriving DecidableEq, Repr

/-- The least exponent of a double: that of the subnormal numbers. -/
def leastExponent : Int := -1074

def exponentField (bits : UInt64) : Nat := (bits.toNat / Nat.pow 2 52) % 2048

def fractionField (bits : UInt64) : Nat := bits.toNat % Nat.pow 2 52

/-- The dyadic value of the bits of a finite double, none for infinities and NaN. -/
def Dyadic.ofBits? (bits : UInt64) : Option Dyadic :=
  let negative := decide (Nat.pow 2 63 ≤ bits.toNat)
  let field := exponentField bits
  if field = 2047 then none
  else if field = 0 then some ⟨negative, fractionField bits, leastExponent⟩
  else some ⟨negative, fractionField bits + Nat.pow 2 52, leastExponent + (field - 1)⟩

def Dyadic.ofFloat? (x : Float) : Option Dyadic := Dyadic.ofBits? x.toBits

/-- The numerator and denominator of the absolute value. -/
def Dyadic.ratio (d : Dyadic) : Nat × Nat :=
  if 0 ≤ d.exponent then (d.mantissa * Nat.pow 2 d.exponent.toNat, 1)
  else (d.mantissa, Nat.pow 2 (-d.exponent).toNat)

/-- The nearest integer to `num / den`; a half goes to the even neighbour. -/
def roundHalfEven (num den : Nat) : Nat :=
  let low := num / den
  let rest := num % den
  if 2 * rest < den then low
  else if den < 2 * rest then low + 1
  else if low % 2 = 0 then low else low + 1

end MeshControl.Decimal
