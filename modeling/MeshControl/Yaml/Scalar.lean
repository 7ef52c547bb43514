import MeshControl.Json.Parser
import MeshControl.Yaml.Cursor
import MeshControl.Yaml.Token

/-!
Reading the text of scalars. Plain and quoted scalars fold the line breaks inside them: a single
break is a space, of several the first is dropped. Block scalars keep the lines below their
indentation.
-/
namespace MeshControl.Yaml

/-- What lies between two words: spacing on one line, or line breaks. -/
structure Gap where
  spacing : List Char
  breaks : List Char

namespace Gap

def empty : Gap := ⟨[], []⟩

/-- What a gap stands for. -/
def text (g : Gap) : List Char :=
  match g.breaks with
  | [] => g.spacing
  | [b] => if b = '\n' then [' '] else [b]
  | b :: more => if b = '\n' then more else b :: more

/-- Reads on through spacing and breaks. After a break spacing does not count, and a tab must
not come before column `limit`. -/
def readFrom (limit : Nat) : Nat → Bool → Cursor → Gap → Option (Gap × Cursor)
  | 0, _, c, g => some (g, c)
  | fuel + 1, broken, c, g =>
    match c.lineBreak? with
    | some (b, c) => readFrom limit fuel true c ⟨[], g.breaks ++ [b]⟩
    | none =>
      match c.next? with
      | none => some (g, c)
      | some x =>
        if !isSpacing x then some (g, c)
        else if broken then
          if x = '\t' ∧ c.column < limit then none
          else readFrom limit fuel true (c.skip 1) g
        else readFrom limit fuel false (c.skip 1) { g with spacing := g.spacing ++ [x] }

def read (limit : Nat) (c : Cursor) : Option (Gap × Cursor) :=
  readFrom limit (c.rest.length + 1) false c empty

/-- The breaks after an escaped line break. -/
def readAfterBreak (c : Cursor) : Option (Gap × Cursor) :=
  readFrom 0 (c.rest.length + 1) true c empty

end Gap

/-! ### Plain scalars -/

/-- The characters that end a plain scalar inside brackets. -/
def isFlowIndicator (c : Char) : Bool := [',', '[', ']', '{', '}'].contains c

/-- The characters in front that belong to one word of a plain scalar, none if a colon stands
where it cannot. -/
def plainWord? (flow : Bool) : List Char → Option (List Char)
  | [] => some []
  | c :: cs =>
    if endsWord (some c) then some []
    else if flow && c = ':' && cs.head?.any (fun d => d = '?' || isFlowIndicator d) then none
    else if (c = ':' && endsWord cs.head?) || (flow && isFlowIndicator c) then some []
    else (plainWord? flow cs).map (c :: ·)

/-- A scalar that was read, whether the reading went past the end of its line, and the place
reached. -/
structure PlainText where
  text : List Char
  pastLine : Bool
  cursor : Cursor

def plainFrom (flow : Bool) (limit : Nat) :
    Nat → Cursor → List Char → Gap → Option PlainText
  | 0, _, _, _ => none
  | fuel + 1, c, text, gap =>
    let stop := some ⟨text, !gap.breaks.isEmpty, c⟩
    if c.atDocumentMark || c.next? = some '#' then stop
    else do
      let word ← plainWord? flow c.rest
      if word = [] then stop
      else
        let c := c.skip word.length
        let text := text ++ gap.text ++ word
        let (gap, after) ← Gap.read limit c
        if after.index = c.index then some ⟨text, false, c⟩
        else if !flow && after.column < limit then
          some ⟨text, !gap.breaks.isEmpty, after⟩
        else plainFrom flow limit fuel after text gap

/-- Reads a plain scalar. In a block its lines start at column `limit` or after it. -/
def plain? (flow : Bool) (limit : Nat) (c : Cursor) : Option PlainText :=
  plainFrom flow limit (c.rest.length + 1) c [] Gap.empty

/-! ### Quoted scalars -/

def apostrophe : Char := Char.ofNat 39

def quotationMark : Char := Char.ofNat 34

def backslash : Char := Char.ofNat 92

/-- The characters that one letter after a backslash stands for. -/
def escapes : List (Char × Char) := [
  ('0', Char.ofNat 0), ('a', Char.ofNat 7), ('b', Char.ofNat 8), ('t', '\t'), ('\t', '\t'),
  ('n', '\n'), ('v', Char.ofNat 11), ('f', Char.ofNat 12), ('r', '\r'), ('e', Char.ofNat 27),
  (' ', ' '), (quotationMark, quotationMark), ('/', '/'), (backslash, backslash),
  ('N', Char.ofNat 0x85), ('_', Char.ofNat 0xa0), ('L', lineSeparator),
  ('P', paragraphSeparator)]

def hexDigit? (c : Char) : Option Nat :=
  let b := Json.octet c
  if c.toNat < 128 && Json.isHexOctet b then some (Json.hexValue b) else none

def hexNumber? (cs : List Char) : Option Nat :=
  cs.foldlM (fun n c => (hexDigit? c).map (16 * n + ·)) 0

/-- The character of a code point, none for halves of pairs and beyond the last one. -/
def charOfPoint? (n : Nat) : Option Char := if n.isValidChar then some (Char.ofNat n) else none

def hexEscape? (digits : Nat) (cs : List Char) : Option (Char × Nat) :=
  if cs.length < digits then none
  else ((hexNumber? (cs.take digits)).bind charOfPoint?).map fun c => (c, digits + 1)

/-- The character written after a backslash, and how many characters write it. -/
def escape? : List Char → Option (Char × Nat)
  | [] => none
  | 'x' :: cs => hexEscape? 2 cs
  | 'u' :: cs => hexEscape? 4 cs
  | 'U' :: cs => hexEscape? 8 cs
  | c :: _ => (Entries.find? c escapes).map fun x => (x, 1)

/-- Text inside quotes up to spacing, a line break or the closing quote. A backslash before a
line break joins the lines. -/
structure Run where
  text : List Char
  joined : Bool
  cursor : Cursor

namespace Run

def push (x : Char) (r : Run) : Run := { r with text := x :: r.text }

def read (mark : Char) : Nat → Cursor → Option Run
  | 0, _ => none
  | fuel + 1, c =>
    let stop := some ⟨[], false, c⟩
    match c.next? with
    | none => stop
    | some x =>
      if endsWord (some x) then stop
      else if x = mark then
        if mark = apostrophe && c.second? = some apostrophe then
          (read mark fuel (c.skip 2)).map (push x)
        else stop
      else if x = backslash && mark = quotationMark then
        match (c.skip 1).lineBreak? with
        | some (_, c) => some ⟨[], true, c⟩
        | none => do
          let (x, n) ← escape? (c.rest.drop 1)
          (read mark fuel (c.skip (n + 1))).map (push x)
      else (read mark fuel (c.skip 1)).map (push x)

end Run

def quotedFrom (mark : Char) : Nat → Cursor → List Char → Option (List Char × Cursor)
  | 0, _, _ => none
  | fuel + 1, c, text =>
    if c.atDocumentMark || c.rest.isEmpty then none
    else do
      let run ← Run.read mark (c.rest.length + 1) c
      let text := text ++ run.text
      if run.cursor.next? = some mark then some (text, run.cursor.skip 1)
      else if run.joined then
        let (gap, c) ← Gap.readAfterBreak run.cursor
        quotedFrom mark fuel c (text ++ gap.breaks)
      else
        let (gap, c) ← Gap.read 0 run.cursor
        quotedFrom mark fuel c (text ++ gap.text)

/-- Reads a quoted scalar from its opening quote on. -/
def quoted? (mark : Char) (c : Cursor) : Option (List Char × Cursor) :=
  quotedFrom mark (c.rest.length + 1) (c.skip 1) []

/-! ### Block scalars -/

/-- What becomes of the line breaks at the end. -/
inductive Chomp where
  | strip
  | clip
  | keep
deriving DecidableEq

structure BlockHeader where
  chomp : Chomp
  /-- The indentation relative to that of the surrounding block, if it is given. -/
  increment : Option Nat

def chomp? : Option Char → Option Chomp
  | some '+' => some .keep
  | some '-' => some .strip
  | _ => none

/-- A digit other than zero. Zero is refused, anything else is not an indentation. -/
def increment? (c : Option Char) : Option (Option Nat) :=
  match c with
  | none => some none
  | some d =>
    if d = '0' then none
    else if d.isDigit then some (some (Decimal.digitValue d))
    else some none

/-- The indicators after the one that opens the scalar, in either order. -/
def blockHeader? (c : Cursor) : Option (BlockHeader × Cursor) :=
  match chomp? c.next? with
  | some chomp => do
    let c := c.skip 1
    let increment ← increment? c.next?
    some (⟨chomp, increment⟩, if increment.isSome then c.skip 1 else c)
  | none => do
    let increment ← increment? c.next?
    match increment with
    | none => some (⟨.clip, none⟩, c)
    | some n =>
      let c := c.skip 1
      match chomp? c.next? with
      | some chomp => some (⟨chomp, some n⟩, c.skip 1)
      | none => some (⟨.clip, some n⟩, c)

/-- Empty lines inside or around a block scalar: their breaks, and the widest indentation. -/
structure EmptyLines where
  breaks : List Char
  widest : Nat
  cursor : Cursor

/-- Passes over indentation, up to column `limit` if it is known, and over empty lines. A tab
must not stand in the indentation. -/
def emptyLinesFrom (limit : Option Nat) : Nat → Cursor → List Char → Nat → Option EmptyLines
  | 0, _, _, _ => none
  | fuel + 1, c, breaks, widest =>
    let spaces := (c.rest.takeWhile (· = ' ')).length
    let c := c.skip (match limit with
      | some n => min spaces (n - c.column)
      | none => spaces)
    let widest := max widest c.column
    if c.next? = some '\t' && limit.all (c.column < ·) then none
    else match c.lineBreak? with
      | some (b, c) => emptyLinesFrom limit fuel c (breaks ++ [b]) widest
      | none => some ⟨breaks, widest, c⟩

def emptyLines? (limit : Option Nat) (c : Cursor) : Option EmptyLines :=
  emptyLinesFrom limit (c.rest.length + 1) c [] 0

/-- The text read so far, the break that ended its last line, the empty lines after it, and
whether that line started with spacing. -/
structure BlockText where
  text : List Char
  lastBreak : List Char
  breaks : List Char
  indented : Bool

namespace BlockText

/-- The text before the next line. In a folded scalar a break between two lines that start
without spacing is a space, or nothing before empty lines. -/
def beforeLine (b : BlockText) (folded spaced : Bool) : List Char :=
  if folded && b.lastBreak = ['\n'] && !b.indented && !spaced then
    b.text ++ (if b.breaks.isEmpty then [' '] else b.breaks)
  else b.text ++ b.lastBreak ++ b.breaks

def chomped (b : BlockText) : Chomp → List Char
  | .strip => b.text
  | .clip => b.text ++ b.lastBreak
  | .keep => b.text ++ b.lastBreak ++ b.breaks

/-- Reads lines as long as they start at column `indent`. -/
def readFrom (folded : Bool) (indent : Nat) : Nat → Cursor → BlockText →
    Option (BlockText × Cursor)
  | 0, c, b => some (b, c)
  | fuel + 1, c, b =>
    if c.column = indent && !c.rest.isEmpty then do
      let spaced := c.next?.any isSpacing
      let (line, c) := c.takeWhile fun x => !isLineBreak x
      let text := b.beforeLine folded spaced ++ line
      let (lastBreak, c) := match c.lineBreak? with
        | some (x, c) => ([x], c)
        | none => ([], c)
      let empty ← emptyLines? (some indent) c
      readFrom folded indent fuel empty.cursor ⟨text, lastBreak, empty.breaks, spaced⟩
    else some (b, c)

end BlockText

/-- Reads a block scalar from its indicator on. The block around it is indented by `outer`,
which is -1 outside all blocks. -/
def block? (folded : Bool) (outer : Int) (c : Cursor) : Option (List Char × Cursor) := do
  let (header, c) ← blockHeader? (c.skip 1)
  let c := c.skipSpacing
  let c := if c.next? = some '#' then c.skipLine else c
  if !endsLine c.next? then none
  else
    let c := c.skipLineBreak
    let given := header.increment.map (outer.toNat + ·)
    let empty ← emptyLines? given c
    let indent := given.getD (max empty.widest (max (outer + 1).toNat 1))
    let (b, c) ← BlockText.readFrom folded indent (c.rest.length + 1) empty.cursor
      ⟨[], [], empty.breaks, false⟩
    some (b.chomped header.chomp, c)

end MeshControl.Yaml
