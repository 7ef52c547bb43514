import MeshControl.Decimal.Shortest
import MeshControl.Text.Split

/-!
Two ways to write a double: positionally without an exponent, as in messages, and as a JSON
number, which always shows that it is not an integer.
-/
namespace MeshControl.Decimal

theorem toString_nat_inj {m n : Nat} : toString m = toString n ↔ m = n := by
  constructor
  · intro h
    have hdigits : Nat.toDigits 10 m = Nat.toDigits 10 n := by
      simpa only [Nat.toString_eq_repr, Nat.toList_repr] using congrArg String.toList h
    rw [← @Nat.ofDigitChars_ten_toDigits m, hdigits, Nat.ofDigitChars_ten_toDigits]
  · rintro rfl
    rfl

/-- A number is written with digits only. -/
theorem notMem_toString_nat {c : Char} (hc : c.isDigit = false) (n : Nat) :
    c ∉ (toString n).toList := by
  intro hmem
  rw [Nat.toString_eq_repr, Nat.toList_repr] at hmem
  rw [Nat.isDigit_of_mem_toDigits (by decide) (by decide) hmem] at hc
  cases hc

/-- A number behind a separator that is no digit is told from what stands before. -/
theorem append_cons_toString_inj {c : Char} (hc : c.isDigit = false) {a b : List Char}
    {m n : Nat} :
    a ++ c :: (toString m).toList = b ++ c :: (toString n).toList ↔ a = b ∧ m = n := by
  constructor
  · intro h
    have hcut := congrArg (Text.cutLast c) h
    rw [Text.cutLast_append_cons (notMem_toString_nat hc m),
      Text.cutLast_append_cons (notMem_toString_nat hc n), Option.some.injEq, Prod.mk.injEq,
      String.toList_inj, toString_nat_inj] at hcut
    exact hcut
  · rintro ⟨rfl, rfl⟩
    rfl

def zeros (n : Nat) : String := String.ofList (List.replicate n '0')

/-- The digits with the point put where the exponent says, and nothing after it if the value
is an integer. -/
def Numeral.positional (d : Numeral) : String :=
  let digits := toString d.digits
  if 0 ≤ d.exponent then digits ++ zeros d.exponent.toNat
  else
    let places := (-d.exponent).toNat
    if places < digits.length then
      let cut := digits.length - places
      String.ofList (digits.toList.take cut) ++ "." ++ String.ofList (digits.toList.drop cut)
    else "0." ++ zeros (places - digits.length) ++ digits

/-- The digits as `d.ddd` with the exponent after an `e`. -/
def Numeral.scientific (d : Numeral) : String :=
  let digits := toString d.digits
  let exponent := d.exponent + (digits.length - 1 : Nat)
  let mantissa := match digits.toList with
    | [] => ""
    | [c] => String.singleton c
    | c :: cs => String.singleton c ++ "." ++ String.ofList cs
  mantissa ++ "e" ++ toString exponent

def sign (negative : Bool) : String := if negative then "-" else ""

/-- A double in a message: the shortest digits that read back, never with an exponent. -/
def messageText (x : Float) : String :=
  match Dyadic.ofFloat? x with
  | none => if x.isNaN then "NaN" else sign (x < 0) ++ "inf"
  | some d =>
    if d.mantissa = 0 then sign d.negative ++ "0"
    else sign d.negative ++ (shortest .up d).positional

/-- A double in a JSON text: positional while the point stands from five places before the
first digit to sixteen after it, and with a fraction even if that is zero. -/
def jsonText (x : Float) : String :=
  match Dyadic.ofFloat? x with
  | none => "null"
  | some d =>
    if d.mantissa = 0 then sign d.negative ++ "0.0"
    else
      let s := shortest .toEven d
      let point := s.exponent + (toString s.digits).length
      let text :=
        if 0 ≤ s.exponent ∧ point ≤ 16 then s.positional ++ ".0"
        else if s.exponent < 0 ∧ -5 < point ∧ point ≤ 16 then s.positional
        else s.scientific
      sign d.negative ++ text

end MeshControl.Decimal
