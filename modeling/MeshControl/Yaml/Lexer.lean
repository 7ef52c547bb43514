import MeshControl.Yaml.Scalar
import MeshControl.Yaml.Tag

/-!
Cutting a YAML text into tokens. Whether a word is a key shows only at the colon after it, so
for every level of brackets the place is kept where a key may have started; when the colon comes
the token for the key is put in there, and the token for the start of a mapping before it.
-/
namespace MeshControl.Yaml

/-- Where a key may have started. -/
structure PossibleKey where
  /-- How many tokens come before it. -/
  position : Nat
  /-- Whether nothing but a key can start there. -/
  required : Bool
  index : Nat
  line : Nat
  column : Nat

namespace PossibleKey

/-- How long a key may be before its colon. -/
def lengthLimit : Nat := 1024

/-- A key ends on its line and is not too long. -/
def isStale (k : PossibleKey) (c : Cursor) : Bool :=
  k.line < c.line || k.index + lengthLimit < c.index

end PossibleKey

structure Lexer where
  cursor : Cursor
  tokens : Array Token
  /-- The indentation of the innermost block, -1 outside all blocks. -/
  indent : Int
  /-- The indentations of the blocks around it. -/
  outer : List Int
  /-- The possible key at the present level of brackets. -/
  key : Option PossibleKey
  /-- The possible keys at the levels around it. -/
  outerKeys : List (Option PossibleKey)
  keyAllowed : Bool

namespace Lexer

def ofChars (cs : List Char) : Lexer := ⟨.ofChars cs, #[], -1, [], none, [], true⟩

def inFlow (l : Lexer) : Bool := !l.outerKeys.isEmpty

def emit (l : Lexer) (t : Token) : Lexer := { l with tokens := l.tokens.push t }

def skip (l : Lexer) (n : Nat) : Lexer := { l with cursor := l.cursor.skip n }

def allowKey (l : Lexer) (allowed : Bool) : Lexer := { l with keyAllowed := allowed }

/-! ### Possible keys -/

/-- Gives up the possible key, which must not be a required one. -/
def dropKey (l : Lexer) : Option Lexer :=
  if l.key.any (·.required) then none else some { l with key := none }

def saveKey (l : Lexer) : Option Lexer :=
  if l.keyAllowed then do
    let l ← l.dropKey
    let required := !l.inFlow && l.indent = l.cursor.column
    let c := l.cursor
    some { l with key := some ⟨l.tokens.size, required, c.index, c.line, c.column⟩ }
  else some l

def dropStaleKeys (l : Lexer) : Option Lexer :=
  let stale (k : Option PossibleKey) := k.any (·.isStale l.cursor)
  let fresh (k : Option PossibleKey) := k.filter fun k => !k.isStale l.cursor
  if (l.key :: l.outerKeys).any fun k => stale k && k.any (·.required) then none
  else some { l with key := fresh l.key, outerKeys := l.outerKeys.map fresh }

/-! ### Indentation -/

/-- Opens a block at a column beyond the indentation, its token at a given position. -/
def openBlock (l : Lexer) (column position : Nat) (t : Token) : Lexer :=
  if !l.inFlow && l.indent < column then
    { l with
      indent := column
      outer := l.indent :: l.outer
      tokens := l.tokens.insertIdxIfInBounds position t }
  else l

def openBlockHere (l : Lexer) (t : Token) : Lexer := l.openBlock l.cursor.column l.tokens.size t

/-- How many of the innermost blocks are indented beyond a column, and the indentations left. -/
def closing (column : Int) : Int → List Int → Nat × Int × List Int
  | indent, [] => (0, indent, [])
  | indent, next :: outer =>
    if column < indent then
      let (n, indent, outer) := closing column next outer
      (n + 1, indent, outer)
    else (0, indent, next :: outer)

/-- Closes the blocks that are indented beyond a column. -/
def closeBlocks (l : Lexer) (column : Int) : Lexer :=
  if l.inFlow then l
  else
    let (n, indent, outer) := closing column l.indent l.outer
    { l with
      indent := indent
      outer := outer
      tokens := l.tokens ++ Array.replicate n Token.blockEnd }

/-! ### Single tokens -/

def byteOrderMark : Char := Char.ofNat 0xfeff

/-- Passes over blanks, comments and line breaks. Outside brackets a new line allows a key, and
a tab must not come where a key is allowed. -/
def skipBlanks : Nat → Lexer → Lexer
  | 0, l => l
  | fuel + 1, l =>
    let c := l.cursor
    let c := if c.column = 0 && c.next? = some byteOrderMark then c.skip 1 else c
    let c := c.skipWhile fun x => x = ' ' || ((l.inFlow || !l.keyAllowed) && x = '\t')
    let c := if c.next? = some '#' then c.skipLine else c
    match c.lineBreak? with
    | some (_, c) =>
      skipBlanks fuel { l with cursor := c, keyAllowed := l.keyAllowed || !l.inFlow }
    | none => { l with cursor := c }

/-- Goes to where the next token starts. -/
def approach (l : Lexer) : Option Lexer := do
  let l ← (l.skipBlanks (l.cursor.rest.length + 1)).dropStaleKeys
  some (l.closeBlocks l.cursor.column)

/-- Ends all blocks. -/
def finish (l : Lexer) : Option Lexer := (l.closeBlocks (-1)).dropKey

def directive (l : Lexer) : Option Lexer := do
  let l ← l.finish
  let (t, c) ← directive? l.cursor
  some (({ l with cursor := c }.allowKey false).emit t)

def documentMark (l : Lexer) (t : Token) : Option Lexer := do
  let l ← l.finish
  some (((l.allowKey false).emit t).skip 3)

def openFlow (l : Lexer) (t : Token) : Option Lexer := do
  let l ← l.saveKey
  let l := { l with key := none, outerKeys := l.key :: l.outerKeys, keyAllowed := true }
  some ((l.emit t).skip 1)

def closeFlow (l : Lexer) (t : Token) : Option Lexer := do
  let l ← l.dropKey
  let l := match l.outerKeys with
    | [] => l
    | key :: outerKeys => { l with key := key, outerKeys := outerKeys }
  some (((l.allowKey false).emit t).skip 1)

def flowEntry (l : Lexer) : Option Lexer := do
  let l ← l.dropKey
  some (((l.allowKey true).emit .flowEntry).skip 1)

/-- Opens a block for an entry or a key that stands at the start of a line. -/
def startEntry (l : Lexer) (block : Token) : Option Lexer :=
  if l.inFlow then some l
  else if l.keyAllowed then some (l.openBlockHere block)
  else none

def blockEntry (l : Lexer) : Option Lexer := do
  let l ← l.startEntry .blockSequence
  let l ← l.dropKey
  some (((l.allowKey true).emit .blockEntry).skip 1)

def explicitKey (l : Lexer) : Option Lexer := do
  let l ← l.startEntry .blockMapping
  let l ← l.dropKey
  some (((l.allowKey (!l.inFlow)).emit .key).skip 1)

/-- A colon makes a key of what may be one. -/
def value (l : Lexer) : Option Lexer :=
  match l.key with
  | some k =>
    let l := { l with tokens := l.tokens.insertIdxIfInBounds k.position .key, key := none }
    let l := l.openBlock k.column k.position .blockMapping
    some (((l.allowKey false).emit .value).skip 1)
  | none => do
    let l ← l.startEntry .blockMapping
    some (((l.allowKey (!l.inFlow)).emit .value).skip 1)

/-- A token that may be a key or start one. -/
def keyToken (l : Lexer) (read : Cursor → Option (Token × Cursor)) : Option Lexer := do
  let l ← l.saveKey
  let (t, c) ← read l.cursor
  some (({ l with cursor := c }.allowKey false).emit t)

def anchor (l : Lexer) (token : String → Token) : Option Lexer :=
  l.keyToken fun c => (anchorName? c).map fun (name, c) => (token name, c)

def quotedScalar (l : Lexer) (mark : Char) : Option Lexer :=
  l.keyToken fun c =>
    (quoted? mark c).map fun (text, c) => (.scalar .quoted (String.ofList text), c)

def plainScalar (l : Lexer) : Option Lexer := do
  let l ← l.saveKey
  let t ← plain? l.inFlow (l.indent + 1).toNat l.cursor
  let l := { l with cursor := t.cursor }.allowKey t.pastLine
  some (l.emit (.scalar .plain (String.ofList t.text)))

def blockScalar (l : Lexer) (style : Style) : Option Lexer := do
  let l ← l.dropKey
  let (text, c) ← block? (style == .folded) l.indent l.cursor
  some (({ l with cursor := c }.allowKey true).emit (.scalar style (String.ofList text)))

/-- Characters that cannot start a plain scalar, unless more is said about them. -/
def indicators : List Char :=
  "-?:,[]{}#&*!|>%@".toList ++ [apostrophe, quotationMark, Char.ofNat 96]

def startsPlain (flow : Bool) (x : Char) (next : Option Char) : Bool :=
  !indicators.contains x || (x = '-' && !next.any isSpacing) ||
    (!flow && (x = '?' || x = ':') && !endsWord next)

/-- Reads the token that starts with the character `x`. -/
def token (l : Lexer) (x : Char) : Option Lexer :=
  let c := l.cursor
  let wordEnds := endsWord c.second?
  if c.column = 0 && x = '%' then l.directive
  else if c.marks '-' then l.documentMark .documentStart
  else if c.marks '.' then l.documentMark .documentEnd
  else if x = '[' then l.openFlow .flowSequence
  else if x = '{' then l.openFlow .flowMapping
  else if x = ']' then l.closeFlow .flowSequenceEnd
  else if x = '}' then l.closeFlow .flowMappingEnd
  else if x = ',' then l.flowEntry
  else if x = '-' && wordEnds then l.blockEntry
  else if x = '?' && (l.inFlow || wordEnds) then l.explicitKey
  else if x = ':' && (l.inFlow || wordEnds) then l.value
  else if x = '*' then l.anchor .alias
  else if x = '&' then l.anchor .anchor
  else if x = '!' then l.keyToken (tag? l.inFlow)
  else if x = '|' && !l.inFlow then l.blockScalar .literal
  else if x = '>' && !l.inFlow then l.blockScalar .folded
  else if x = apostrophe || x = quotationMark then l.quotedScalar x
  else if startsPlain l.inFlow x c.second? then l.plainScalar
  else none

/-- The tokens up to the end of the text, or up to the first fault. -/
def run : Nat → Lexer → List Token
  | 0, l => l.tokens.toList ++ [.fault]
  | fuel + 1, l =>
    match l.approach with
    | none => l.tokens.toList ++ [.fault]
    | some l =>
      match l.cursor.next? with
      | none =>
        match l.finish with
        | none => l.tokens.toList ++ [.fault]
        | some l => l.tokens.toList
      | some x =>
        match l.token x with
        | none => l.tokens.toList ++ [.fault]
        | some l => run fuel l

end Lexer

/-- The characters a text may hold. -/
def isAllowed (c : Char) : Bool :=
  let n := c.toNat
  n = 9 || n = 10 || n = 13 || (0x20 ≤ n && n ≤ 0x7e) || n = 0x85 ||
    (0xa0 ≤ n && n ≤ 0xfffd) || 0x10000 ≤ n

/-- The tokens of a text. A mark of the order of bytes may come first. -/
def tokens (s : String) : List Token :=
  let cs := match s.toList with
    | c :: rest => if c = Lexer.byteOrderMark then rest else c :: rest
    | [] => []
  if cs.all isAllowed then (Lexer.ofChars cs).run (cs.length + 1) else [.fault]

end MeshControl.Yaml
