import MeshControl.Decimal.Read
import MeshControl.Text.Numeric
import MeshControl.Text.Split

/-!
Filters for the log: directives separated by commas. A directive is a level, or a target with an
optional span and fields in brackets and, after an equals sign, a level: `pilot=info,warn`,
`net[conn{peer}]=debug`. The blanks around a directive do not belong to it, but its level is cut
from the text with the blanks, at the same position.
-/
namespace MeshControl.LogFilter

/-- Where in a directive its reader is. -/
inductive Place where
  | start
  | word
  | target
  | span
  /-- Within braces; the flag says whether they hold something. -/
  | field (some : Bool)
  | fields
  /-- The level that begins at a position of the whole text. -/
  | level (position : Nat)
deriving DecidableEq, Repr

/-- The place after the character at a position, none if it cannot stand there. -/
def Place.next (p : Place) (position : Nat) (c : Char) : Option Place :=
  match p with
  | start =>
    if c = '[' then some span
    else if c = '-' ∨ c = ':' ∨ c = '_' ∨ Text.isAlphanumeric c then some word
    else none
  | word =>
    if c = '=' then some (level (position + 1))
    else if c = '[' then some span
    else some word
  | target => if c = '=' then some (level (position + 1)) else none
  | span =>
    if c = ']' then some target
    else if c = '\x7b' then some (field false)
    else some span
  | field filled =>
    if c = '\x7d' then if filled then some fields else none
    else some (field true)
  | fields => if c = ']' then some target else none
  | level i => some (level i)

def run (p : Place) (position : Nat) : List Char → Option Place
  | [] => some p
  | c :: cs => (p.next position c).bind fun p => run p (position + 1) cs

def levelNames : List String := ["off", "error", "warn", "info", "debug", "trace"]

/-- A number from zero for off to five for the most verbose level. -/
def isLevelNumber (cs : List Char) : Bool :=
  let digits := match cs with
    | '+' :: cs => cs
    | cs => cs
  (Decimal.allDigits? digits).any (· ≤ 5)

def lowered (cs : List Char) : String := String.ofList (cs.map Char.toLower)

/-- A level may be left out. -/
def isLevel (cs : List Char) : Bool :=
  cs.isEmpty || isLevelNumber cs || levelNames.contains (lowered cs)

def isDirective (cs : List Char) : Bool :=
  match run .start 0 (Text.trimBlanks cs) with
  | some .word | some .target => true
  | some (.level i) => isLevel (cs.drop i)
  | _ => false

/-- An empty filter is a filter without directives. -/
def isValid (s : String) : Bool := s.isEmpty || (Text.pieces ',' s.toList).all isDirective

end MeshControl.LogFilter
