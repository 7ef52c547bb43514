import MeshControl.Text.Quoted
import MeshControl.Text.Split
import MeshControl.Decimal.Text

/-!
Problems found in an object, and the checks shared by several kinds of objects. A check goes
on after the first problem, so its result lists every one of them; an object is valid when the
list is empty. A check that adds numbers ends without such a list if a sum overflows.
-/
namespace MeshControl

abbrev Problems := List String

/-- A sum of two 32-bit numbers that is none itself. What needs such a sum has no result. -/
structure Overflow where
deriving DecidableEq, Repr, Inhabited

instance decidableEqExcept {ε α : Type} [DecidableEq ε] [DecidableEq α] :
    DecidableEq (Except ε α)
  | .ok a, .ok b => decidable_of_iff (a = b) ⟨congrArg _, Except.ok.inj⟩
  | .error e, .error f => decidable_of_iff (e = f) ⟨congrArg _, Except.error.inj⟩
  | .ok _, .error _ => .isFalse nofun
  | .error _, .ok _ => .isFalse nofun

/-- What a check finds, if it comes to an end. -/
abbrev Verdict := Except Overflow Problems

/-- One problem stands for itself, several are counted and listed. -/
def Problems.text : Problems → String
  | [] => "no errors"
  | [p] => p
  | ps => s!"{ps.length} errors occurred:" ++ String.join (ps.map fun p => s!" {p};")

/-- A problem that arises under a condition. -/
def problemIf (cond : Bool) (text : String) : Problems := if cond then [text] else []

@[simp] theorem problemIf_eq_nil {cond : Bool} {text : String} :
    problemIf cond text = [] ↔ cond = false := by
  cases cond <;> simp [problemIf]

/-! ### Results -/

theorem exists_of_map_eq_ok {ε α β : Type} {x : Except ε α} {f : α → β} {b : β}
    (h : x.map f = .ok b) : ∃ a, x = .ok a ∧ f a = b := by
  cases x with
  | error e => cases h
  | ok a => exact ⟨a, rfl, Except.ok.inj h⟩

theorem map_succeeds_iff {ε α β : Type} {x : Except ε α} {f : α → β} :
    (∃ b, x.map f = .ok b) ↔ ∃ a, x = .ok a := by
  constructor
  · rintro ⟨b, hb⟩
    obtain ⟨a, ha, -⟩ := exists_of_map_eq_ok hb
    exact ⟨a, ha⟩
  · rintro ⟨a, rfl⟩
    exact ⟨f a, rfl⟩

/-! ### Checks -/

namespace Validation

def isLowerAlnum (c : Char) : Bool := c.isLower || c.isDigit

/-- Lower-case letters and digits, with dashes inside. -/
def isLabelText (cs : List Char) : Bool :=
  cs.all (fun c => isLowerAlnum c || c == '-') &&
    cs.head?.any isLowerAlnum && cs.getLast?.any isLowerAlnum

/-- A label of a domain name: at most 63 lower-case letters, digits and inner dashes. -/
def isLabel (s : String) : Bool := s.utf8ByteSize ≤ 63 && isLabelText s.toList

def isTagChar (c : Char) : Bool :=
  c.isAlphanum || c == '-' || c == '_' || c == '.' || c == '/'

def isTagPart (s : String) : Bool := s.toList.all isTagChar

def isIdentifier : List Char → Bool
  | [] => false
  | c :: cs => c.isAlpha && cs.all fun d => d.isAlphanum || d == '_'

/-- Identifiers joined by dots. -/
def isMessageName (s : String) : Bool := (Text.pieces '.' s.toList).all isIdentifier

/-- A domain name: at most 255 bytes, every part between the dots a label. -/
def fqdn (s : String) : Problems :=
  if s.isEmpty then ["empty domain name not allowed"]
  else if 255 < s.utf8ByteSize then [s!"domain name {Text.quote s} too long (max 255)"]
  else
    ((Text.split '.' s).filter (!isLabel ·)).map fun label =>
      s!"domain name {Text.quote s} invalid (label {Text.quote label} invalid)"

def portNumber (n : Nat) : Problems := problemIf (n == 0) "port number 0 is out of range"

def percent (what : String) (x : Float) : Problems :=
  problemIf (!(0.0 ≤ x && x ≤ 100.0))
    s!"{what} percentage {Decimal.messageText x} must be in range 0..100"

end Validation

end MeshControl
