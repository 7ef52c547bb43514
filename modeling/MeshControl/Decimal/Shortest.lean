import MeshControl.Decimal.Binary

/-!
The shortest decimal that reads back as a given double. The reals that round to a double
form an interval around it. Among the decimals in that interval those on the coarsest grid
of powers of ten have the fewest digits, and of those the one nearest to the double is taken.
On each grid only the two neighbours of the double need a look: if any point of the grid is
in the interval, one of the neighbours is.
-/
namespace MeshControl.Decimal

/-- `digits` times ten to the `exponent`. -/
structure Numeral where
  digits : Nat
  exponent : Int
deriving DecidableEq, Repr

/-- What to do when a double is half-way between two equally short decimals. -/
inductive Tie where
  | toEven
  | up
deriving DecidableEq, Repr

/-- The interval of reals that round to a double, as `(center - below) / scale` to
`(center + above) / scale`, the ends included when `closed`. -/
structure Interval where
  center : Nat
  below : Nat
  above : Nat
  scale : Nat
  closed : Bool

/-- Half a unit in the last place on both sides, but a quarter below a power of two, where the
doubles lie twice as close. -/
def Interval.of (d : Dyadic) : Interval :=
  let atPower := d.mantissa = Nat.pow 2 52 ∧ d.exponent ≠ leastExponent
  let shift := d.exponent - 2
  let unit := Nat.pow 2 shift.toNat
  { center := 4 * d.mantissa * unit
    below := (if atPower then 1 else 2) * unit
    above := 2 * unit
    scale := Nat.pow 2 (-shift).toNat
    closed := d.mantissa % 2 = 0 }

/-- Whether a point at the given distance is still inside. -/
def Interval.reaches (i : Interval) (distance limit : Nat) : Bool :=
  if i.closed then distance ≤ limit else distance < limit

/-- The best point of the grid of multiples of ten to the `k` in the interval. -/
def Interval.onGrid (i : Interval) (tie : Tie) (k : Int) : Option Nat :=
  let grow := Nat.pow 10 (-k).toNat
  let unit := i.scale * Nat.pow 10 k.toNat
  let center := i.center * grow
  let low := center / unit
  let down := center - low * unit
  let up := (low + 1) * unit - center
  let lowIn := low ≠ 0 && i.reaches down (i.below * grow)
  let highIn := i.reaches up (i.above * grow)
  match lowIn, highIn with
  | false, false => none
  | true, false => some low
  | false, true => some (low + 1)
  | true, true =>
    if down < up then some low
    else if up < down then some (low + 1)
    else match tie with
      | .toEven => some (if low % 2 = 0 then low else low + 1)
      | .up => some (low + 1)

/-- Tries grids from ten to the `k` downwards. -/
def Interval.search (i : Interval) (tie : Tie) : Nat → Int → Numeral
  | 0, k => ⟨i.center * Nat.pow 10 (-k).toNat / (i.scale * Nat.pow 10 k.toNat), k⟩
  | fuel + 1, k =>
    match i.onGrid tie k with
    | some n => ⟨n, k⟩
    | none => i.search tie fuel (k - 1)

/-- A power of ten above the value: three hundredths of the bit length, rounded up and one. -/
def Interval.topExponent (i : Interval) : Int :=
  ((i.center.log2 : Int) - i.scale.log2) * 30103 / 100000 + 2

/-- The shortest decimal of a positive dyadic; seventeen digits always suffice. -/
def shortest (tie : Tie) (d : Dyadic) : Numeral :=
  let i := Interval.of d
  i.search tie 21 i.topExponent

end MeshControl.Decimal
