import MeshControl.Decimal.Read
import MeshControl.Json.Source

/-!
What words written without quotes mean: null, truth values and numbers in the core schema of
YAML 1.2, and texts otherwise.
-/
namespace MeshControl.Yaml.Plain

def isNull (s : String) : Bool := ["null", "Null", "NULL", "~"].contains s

def truth? (s : String) : Option Bool :=
  if ["true", "True", "TRUE"].contains s then some true
  else if ["false", "False", "FALSE"].contains s then some false
  else none

def digitIn? (base : Nat) (c : Char) : Option Nat :=
  let n :=
    if c.isDigit then c.toNat - '0'.toNat
    else if c.isLower then c.toNat - 'a'.toNat + 10
    else if c.isUpper then c.toNat - 'A'.toNat + 10
    else base
  if n < base then some n else none

/-- The number that a non-empty list of digits writes. -/
def digitsIn? (base : Nat) (cs : List Char) : Option Nat :=
  if cs.isEmpty then none
  else cs.foldlM (fun n c => (digitIn? base c).map (base * n + ·)) 0

/-- The digits after the mark of their base. -/
def based? : List Char → Option Nat
  | '0' :: 'x' :: cs => digitsIn? 16 cs
  | '0' :: 'o' :: cs => digitsIn? 8 cs
  | '0' :: 'b' :: cs => digitsIn? 2 cs
  | _ => none

/-- More than one digit starting with a zero, after a sign: a text and not a number. -/
def isPaddedDigits (cs : List Char) : Bool :=
  let digits := match cs with
    | c :: rest => if c = '-' || c = '+' then rest else cs
    | [] => []
  1 < digits.length && digits.head? = some '0' && digits.all Char.isDigit

/-- A whole number without a minus sign. -/
def natural? (s : String) : Option Nat :=
  let cs := match s.toList with
    | '+' :: cs => cs
    | cs => cs
  match based? cs with
  | some n => some n
  | none => if isPaddedDigits s.toList then none else digitsIn? 10 cs

/-- The size of a whole number with a minus sign. -/
def negated? (s : String) : Option Nat :=
  match s.toList with
  | '-' :: cs =>
    match based? cs with
    | some n => some n
    | none => if isPaddedDigits cs then none else digitsIn? 10 cs
  | _ => none

/-- A whole number of any size. -/
def integer? (s : String) : Option Int :=
  match natural? s with
  | some n => some n
  | none => (negated? s).map fun n => -(n : Int)

def infinity : Float := 1.0 / 0.0

def notANumber : Float := 0.0 / 0.0

/-- A number that is not padded with zeros; a decimal one must be in the range of doubles. -/
def float? (s : String) : Option Float :=
  let unsigned := match s.toList with
    | '+' :: cs => if cs.head?.any (fun c => c = '+' || c = '-') then none else some cs
    | cs => some cs
  unsigned.bind fun cs =>
    if [".inf", ".Inf", ".INF"].contains (String.ofList cs) then some infinity
    else if ["-.inf", "-.Inf", "-.INF"].contains s then some (-infinity)
    else if [".nan", ".NaN", ".NAN"].contains s then some notANumber
    else ((Decimal.read cs).map (·.toFloat)).filter Float.isFinite

/-- The meaning of a word. -/
inductive Meaning where
  | null
  | truth (b : Bool)
  | integer (n : Int)
  | float (x : Float)
  | text

/-- Whole numbers are those of 64 bits, with or without a sign. Others of at most 128 bits have
no meaning, and those beyond are read as doubles. -/
def meaning? (s : String) : Option Meaning :=
  if s.isEmpty || isNull s then some .null
  else match truth? s with
    | some b => some (.truth b)
    | none =>
      match integer? s with
      | some n =>
        if -Nat.pow 2 63 ≤ n ∧ n < Nat.pow 2 64 then some (.integer n)
        else if -Nat.pow 2 127 ≤ n ∧ n < Nat.pow 2 128 then none
        else real s
      | none => real s
where
  real (s : String) : Option Meaning :=
    if isPaddedDigits s.toList then some .text
    else match float? s with
      | some x => some (.float x)
      | none => some .text

end MeshControl.Yaml.Plain
