import MeshControl.Decimal.Read
import MeshControl.Decimal.Text
import MeshControl.Json.Basic
import MeshControl.Shape
import MeshControl.Text.Alphabetic
import MeshControl.Text.Split

/-!
Durations in whole nanoseconds. They are written as numbers with units, `1h30m` or `0.5s`, and
shown in the largest of the units second, milli-, micro- and nanosecond that keeps the number
at one or above.
-/
namespace MeshControl

structure Duration where
  nanos : Nat
deriving DecidableEq, Repr, Inhabited

namespace Duration

inductive ReadError where
  | invalidUnit
  | noUnit
  | negative
  | emptyNumber
  | invalidNumber
  /-- A component is negative, or the total does not fit. -/
  | outOfRange
deriving DecidableEq, Repr

def expectedUnits : String := "expected one of 'ns', 'us', '\u00b5s', 'ms', 's', 'm', or 'h'"

def ReadError.text : ReadError → String
  | invalidUnit => s!"invalid unit: {expectedUnits}"
  | noUnit => s!"missing a unit: {expectedUnits}"
  | negative => "durations may not be negative"
  | emptyNumber => "invalid number: cannot parse float from empty string"
  | invalidNumber => "invalid number: invalid float literal"
  | outOfRange => "duration out of range"

def nanosPerSecond : Nat := 1000000000

/-- Durations stay below this number of nanoseconds: their seconds fit 64 bits. -/
def limit : Nat := UInt64.size * nanosPerSecond

def ofSeconds (s : Nat) : Duration := ⟨s * nanosPerSecond⟩

def ofMillis (ms : Nat) : Duration := ⟨ms * 1000000⟩

def seconds (d : Duration) : Nat := d.nanos / nanosPerSecond

/-- The nanoseconds beyond the whole seconds. -/
def subsecond (d : Duration) : Nat := d.nanos % nanosPerSecond

def isZero (d : Duration) : Bool := d.nanos == 0

/-- Whole milliseconds, at most what fits 64 bits. -/
def millis (d : Duration) : Nat := min (d.nanos / 1000000) (UInt64.size - 1)

/-- Whole seconds, rounded up within 64 bits. -/
def secondsUp (d : Duration) : Nat :=
  if d.subsecond = 0 then d.seconds else (d.seconds + 1) % UInt64.size

/-! ### Writing -/

def padded (width n : Nat) : List Char :=
  let digits := (toString n).toList
  List.replicate (width - digits.length) '0' ++ digits

/-- The number of whole units with `places` digits of fraction, less the zeros at its end. -/
def fractionText (whole fraction places : Nat) (unit : String) : String :=
  let digits := ((padded places fraction).reverse.dropWhile (· = '0')).reverse
  let tail := if digits = [] then "" else "." ++ String.ofList digits
  toString whole ++ tail ++ unit

def text (d : Duration) : String :=
  if nanosPerSecond ≤ d.nanos then fractionText d.seconds d.subsecond 9 "s"
  else if 1000000 ≤ d.nanos then
    fractionText (d.nanos / 1000000) (d.nanos % 1000000) 6 "ms"
  else if 1000 ≤ d.nanos then fractionText (d.nanos / 1000) (d.nanos % 1000) 3 "\u00b5s"
  else toString d.nanos ++ "ns"

/-! ### Reading -/

/-- The seconds in a unit, as the nearest double. -/
def unitSeconds? : List Char → Option Float
  | ['n', 's'] => some 1e-9
  | ['u', 's'] | ['\u00b5', 's'] | ['\u03bc', 's'] => some 1e-6
  | ['m', 's'] => some 1e-3
  | ['s'] => some 1.0
  | ['m'] => some 60.0
  | ['h'] => some 3600.0
  | _ => none

/-- The duration nearest to a number of seconds; a half goes to the even nanosecond. -/
def ofFloatSeconds? (x : Float) : Option Duration :=
  if x < 0.0 then none
  else do
    let d ← Decimal.Dyadic.ofFloat? x
    let (num, den) := d.ratio
    let nanos := Decimal.roundHalfEven (num * nanosPerSecond) den
    if nanos < limit then some ⟨nanos⟩ else none

def readNumber (cs : List Char) : Except ReadError Float :=
  if cs = [] then .error .emptyNumber
  else match Decimal.read cs with
    | some w => .ok w.toFloat
    | none => .error .invalidNumber

/-- Adds up components, each a number and a unit, until the characters are used up. The fuel is
their number. -/
def readComponents : Nat → Duration → List Char → Except ReadError Duration
  | _, total, [] => .ok total
  | 0, total, _ => .ok total
  | fuel + 1, total, cs =>
    let number := cs.takeWhile (!Text.isAlphabetic ·)
    let tail := cs.dropWhile (!Text.isAlphabetic ·)
    if tail = [] then .error .noUnit
    else
      match readNumber number with
      | .error e => .error e
      | .ok x =>
        match unitSeconds? (tail.takeWhile Text.isAlphabetic) with
        | none => .error .invalidUnit
        | some unit =>
          match ofFloatSeconds? (x * unit) with
          | none => .error .outOfRange
          | some d =>
            if total.nanos + d.nanos < limit then
              readComponents fuel ⟨total.nanos + d.nanos⟩ (tail.dropWhile Text.isAlphabetic)
            else .error .outOfRange

def readUnsigned (cs : List Char) : Except ReadError Duration :=
  if cs = ['0'] then .ok ⟨0⟩
  else if cs = [] then .error .noUnit
  else readComponents cs.length ⟨0⟩ cs

/-- Reads a duration; blanks around it and one plus sign do not matter. -/
def ofText (s : String) : Except ReadError Duration :=
  match Text.trimBlanks s.toList with
  | '+' :: cs => readUnsigned cs
  | '-' :: _ => .error .negative
  | cs => readUnsigned cs

def json (d : Duration) : Json := .str d.text

def decode {δ : Type} [Source δ] (d : δ) : Decoded Duration :=
  match Source.text? d with
  | none => Decode.malformed
  | some s =>
    match ofText s with
    | .ok duration => .ok duration
    | .error .outOfRange => .error .durationRange
    | .error _ => Decode.malformed

end Duration

end MeshControl
