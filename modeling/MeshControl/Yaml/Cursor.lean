/-!
A place in a text that is being read: what is left, and the line and column reached. Columns
start at zero after every line break, of which there are five kinds.
-/
namespace MeshControl.Yaml

structure Cursor where
  rest : List Char
  /-- How many characters have been read. -/
  index : Nat
  line : Nat
  column : Nat
deriving Inhabited

def isSpacing (c : Char) : Bool := c = ' ' || c = '\t'

def lineSeparator : Char := Char.ofNat 0x2028

def paragraphSeparator : Char := Char.ofNat 0x2029

def isLineBreak (c : Char) : Bool :=
  c = '\n' || c = '\r' || c = Char.ofNat 0x85 || c = lineSeparator || c = paragraphSeparator

/-- A word ends before spacing, before a line break and at the end of the text. -/
def endsWord (c : Option Char) : Bool := c.all fun c => isSpacing c || isLineBreak c

def endsLine (c : Option Char) : Bool := c.all isLineBreak

namespace Cursor

def ofChars (cs : List Char) : Cursor := ⟨cs, 0, 0, 0⟩

def next? (c : Cursor) : Option Char := c.rest.head?

def second? (c : Cursor) : Option Char := c.rest[1]?

/-- Passes over characters that are not line breaks. -/
def skip (c : Cursor) (n : Nat) : Cursor :=
  { c with rest := c.rest.drop n, index := c.index + n, column := c.column + n }

def skipWhile (c : Cursor) (p : Char → Bool) : Cursor := c.skip (c.rest.takeWhile p).length

def skipSpacing (c : Cursor) : Cursor := c.skipWhile isSpacing

def skipLine (c : Cursor) : Cursor := c.skipWhile fun x => !isLineBreak x

/-- The characters in front that satisfy a test, and the place after them. -/
def takeWhile (c : Cursor) (p : Char → Bool) : List Char × Cursor :=
  (c.rest.takeWhile p, c.skipWhile p)

/-- Reads a line break. Only the separators of lines and paragraphs keep their form; any other
break is read as a line feed. -/
def lineBreak? (c : Cursor) : Option (Char × Cursor) :=
  match c.rest with
  | '\r' :: '\n' :: rest => some ('\n', ⟨rest, c.index + 2, c.line + 1, 0⟩)
  | b :: rest =>
    if isLineBreak b then
      let read := if b = lineSeparator || b = paragraphSeparator then b else '\n'
      some (read, ⟨rest, c.index + 1, c.line + 1, 0⟩)
    else none
  | [] => none

def skipLineBreak (c : Cursor) : Cursor :=
  match c.lineBreak? with
  | some (_, c) => c
  | none => c

/-- Three equal characters in the first column followed by the end of a word. -/
def marks (c : Cursor) (x : Char) : Bool :=
  c.column = 0 && c.rest.take 3 = [x, x, x] && endsWord c.rest[3]?

/-- The marks at which documents start and end. -/
def atDocumentMark (c : Cursor) : Bool := c.marks '-' || c.marks '.'

end Cursor

end MeshControl.Yaml
