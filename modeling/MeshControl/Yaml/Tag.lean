import MeshControl.Json.Parser
import MeshControl.Yaml.Cursor
import MeshControl.Yaml.Token

/-!
Reading names of anchors, tags and directives.
-/
namespace MeshControl.Yaml

/-- The characters of names. -/
def isNameChar (c : Char) : Bool := c.isAlphanum || c = '_' || c = '-'

/-- Characters other than blanks that may follow a name. -/
def nameStops : List Char := ['?', ':', ',', ']', '}', '%', '@', Char.ofNat 96]

/-- Reads the name after the indicator of an anchor or of an alias. -/
def anchorName? (c : Cursor) : Option (String × Cursor) :=
  let (name, c) := (c.skip 1).takeWhile isNameChar
  if name.isEmpty then none
  else if endsWord c.next? || c.next?.any nameStops.contains then some (String.ofList name, c)
  else none

/-! ### Tags -/

def isTagChar (verbatim : Bool) (c : Char) : Bool :=
  isNameChar c || (";/?:@&=+$.!~*()%".toList ++ [Char.ofNat 39]).contains c ||
    (verbatim && [',', '[', ']'].contains c)

/-- Replaces escapes by the octets they stand for. -/
def tagOctets : List Char → Option (List UInt8)
  | [] => some []
  | '%' :: a :: b :: cs =>
    if Json.isHexOctet (Json.octet a) && Json.isHexOctet (Json.octet b) then
      let n := 16 * Json.hexValue (Json.octet a) + Json.hexValue (Json.octet b)
      (tagOctets cs).map (n.toUInt8 :: ·)
    else none
  | c :: cs => if c = '%' then none else (tagOctets cs).map (Json.octet c :: ·)

/-- Reads characters of a tag, none if an escape is bad. -/
def tagText? (verbatim : Bool) (c : Cursor) : Option (String × Cursor) := do
  let (cs, c) := c.takeWhile (isTagChar verbatim)
  let text ← (tagOctets cs).bind Json.utf8?
  some (text, c)

/-- Reads a handle: an exclamation mark, alone or closing a name that another one opens. The
flag says whether the second one is there. -/
def tagHandle? (c : Cursor) : Option (String × Bool × Cursor) :=
  if c.next? = some '!' then
    let (name, c) := (c.skip 1).takeWhile isNameChar
    let handle := "!" ++ String.ofList name
    if c.next? = some '!' then some (handle ++ "!", true, c.skip 1)
    else some (handle, false, c)
  else none

def nonEmpty? (s : String) : Option String := if s.isEmpty then none else some s

/-- Handle and suffix of a tag. -/
def tagParts? (c : Cursor) : Option ((String × String) × Cursor) :=
  if c.second? = some '<' then do
    let (text, c) ← tagText? true (c.skip 2)
    let text ← nonEmpty? text
    if c.next? = some '>' then some (("", text), c.skip 1) else none
  else do
    let (handle, closed, c) ← tagHandle? c
    let (text, c) ← tagText? false c
    if closed then
      let text ← nonEmpty? text
      some ((handle, text), c)
    else
      let name := String.ofList (handle.toList.drop 1) ++ text
      some (if name.isEmpty then ("", "!") else ("!", name), c)

/-- Reads a tag, which a blank or, inside brackets, a comma must follow. -/
def tag? (flow : Bool) (c : Cursor) : Option (Token × Cursor) := do
  let ((handle, suffix), c) ← tagParts? c
  if endsWord c.next? || (flow && c.next? = some ',') then some (.tag handle suffix, c)
  else none

/-! ### Directives -/

/-- At most nine digits. -/
def versionNumber? (c : Cursor) : Option (Nat × Cursor) :=
  let (digits, c) := c.takeWhile Char.isDigit
  if digits.isEmpty || 9 < digits.length then none
  else some (Decimal.digitsValue digits, c)

def version? (c : Cursor) : Option (Token × Cursor) := do
  let (major, c) ← versionNumber? c.skipSpacing
  if c.next? = some '.' then
    let (minor, c) ← versionNumber? (c.skip 1)
    some (.version major minor, c)
  else none

def tagDirective? (c : Cursor) : Option (Token × Cursor) := do
  let (handle, closed, c) ← tagHandle? c.skipSpacing
  if !closed && handle != "!" then none
  else if !c.next?.any isSpacing then none
  else
    let (expansion, c) ← tagText? true c.skipSpacing
    let expansion ← nonEmpty? expansion
    if endsWord c.next? then some (.tagHandle handle expansion, c) else none

/-- Reads a directive with the rest of its line. -/
def directive? (c : Cursor) : Option (Token × Cursor) := do
  let (name, c) := (c.skip 1).takeWhile isNameChar
  if !endsWord c.next? then none
  else
    let (token, c) ←
      if name = "YAML".toList then version? c
      else if name = "TAG".toList then tagDirective? c
      else none
    let c := c.skipSpacing
    let c := if c.next? = some '#' then c.skipLine else c
    if endsLine c.next? then some (token, c.skipLineBreak) else none

end MeshControl.Yaml
