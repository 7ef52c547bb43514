import MeshControl.Json.Number

/-!
JSON texts taken apart without being interpreted. A document keeps every field of an object,
also repeated ones, and the octets of its texts and the digits of its numbers as written. Only
the parts that are used are interpreted later, so a fault in a part nobody looks at stays
unnoticed unless it breaks the grammar.
-/
namespace MeshControl.Json

inductive Document where
  | null
  | bool (b : Bool)
  | number (text : NumberText)
  | text (octets : List UInt8)
  | array (items : List Document)
  | object (fields : List (List UInt8 × Document))
deriving Inhabited

abbrev Octets := List UInt8

def octet (c : Char) : UInt8 := c.toNat.toUInt8

def isBlankOctet (b : UInt8) : Bool := b = 32 || b = 10 || b = 13 || b = 9

def skipBlanks (s : Octets) : Octets := s.dropWhile isBlankOctet

def isHexOctet (b : UInt8) : Bool :=
  (48 ≤ b && b ≤ 57) || (65 ≤ b && b ≤ 70) || (97 ≤ b && b ≤ 102)

def isDigitOctet (b : UInt8) : Bool := 48 ≤ b && b ≤ 57

/-- The octets of a text up to its closing quote, escapes unread, and what follows the quote. -/
def readText : Octets → Option (Octets × Octets)
  | [] => none
  | 34 :: rest => some ([], rest)
  | 92 :: 117 :: a :: b :: c :: d :: rest =>
    if isHexOctet a && isHexOctet b && isHexOctet c && isHexOctet d then
      (readText rest).map fun (t, r) => (92 :: 117 :: a :: b :: c :: d :: t, r)
    else none
  | 92 :: e :: rest =>
    if e ∈ [34, 92, 47, 98, 102, 110, 114, 116] then
      (readText rest).map fun (t, r) => (92 :: e :: t, r)
    else none
  | b :: rest =>
    if b < 32 || b = 92 then none
    else (readText rest).map fun (t, r) => (b :: t, r)

def digitChars (s : Octets) : List Char :=
  (s.takeWhile isDigitOctet).map fun b => Char.ofNat b.toNat

def afterDigits (s : Octets) : Octets := s.dropWhile isDigitOctet

def readFraction : Octets → Option (Option (List Char) × Octets)
  | 46 :: rest =>
    match digitChars rest with
    | [] => none
    | ds => some (some ds, afterDigits rest)
  | s => some (none, s)

def readPower (s : Octets) : Option (Option Int × Octets) :=
  match s with
  | [] => some (none, [])
  | b :: rest =>
    if b = 101 || b = 69 then
      let (negative, rest) := match rest with
        | 45 :: r => (true, r)
        | 43 :: r => (false, r)
        | r => (false, r)
      match digitChars rest with
      | [] => none
      | ds =>
        let n : Int := Decimal.digitsValue ds
        some (some (if negative then -n else n), afterDigits rest)
    else some (none, s)

/-- A number: no leading zeros, digits after a point and after an exponent mark. -/
def readNumber (s : Octets) : Option (NumberText × Octets) := do
  let (negative, s) := match s with
    | 45 :: rest => (true, rest)
    | _ => (false, s)
  let whole := digitChars s
  match whole with
  | [] => none
  | ['0'] => pure ()
  | '0' :: _ => none
  | _ => pure ()
  let (fraction, s) ← readFraction (afterDigits s)
  let (exponent, s) ← readPower s
  some (⟨negative, whole, fraction, exponent⟩, s)

/-- Removes a word from the front. -/
def expect (word : String) (s : Octets) : Option Octets :=
  let w := word.toUTF8.toList
  if w.isPrefixOf s then some (s.drop w.length) else none

mutual
/-- Reads one value. The fuel bounds the number of values, fields and separators read. -/
def readValue : Nat → Octets → Option (Document × Octets)
  | 0, _ => none
  | fuel + 1, s =>
    match skipBlanks s with
    | [] => none
    | 110 :: rest => (expect "ull" rest).map fun r => (.null, r)
    | 116 :: rest => (expect "rue" rest).map fun r => (.bool true, r)
    | 102 :: rest => (expect "alse" rest).map fun r => (.bool false, r)
    | 34 :: rest => (readText rest).map fun (t, r) => (.text t, r)
    | 91 :: rest =>
      match skipBlanks rest with
      | 93 :: r => some (.array [], r)
      | s => (readItems fuel s).map fun (items, r) => (.array items, r)
    | 123 :: rest =>
      match skipBlanks rest with
      | 125 :: r => some (.object [], r)
      | s => (readFields fuel s).map fun (fields, r) => (.object fields, r)
    | s => (readNumber s).map fun (n, r) => (.number n, r)

def readItems : Nat → Octets → Option (List Document × Octets)
  | 0, _ => none
  | fuel + 1, s => do
    let (item, s) ← readValue fuel s
    match skipBlanks s with
    | 44 :: rest =>
      let (items, r) ← readItems fuel rest
      some (item :: items, r)
    | 93 :: rest => some ([item], rest)
    | _ => none

def readFields : Nat → Octets → Option (List (Octets × Document) × Octets)
  | 0, _ => none
  | fuel + 1, s =>
    match skipBlanks s with
    | 34 :: rest => do
      let (name, s) ← readText rest
      let s ← match skipBlanks s with
        | 58 :: rest => some rest
        | _ => none
      let (value, s) ← readValue fuel s
      match skipBlanks s with
      | 44 :: rest =>
        let (fields, r) ← readFields fuel rest
        some ((name, value) :: fields, r)
      | 125 :: rest => some ([(name, value)], rest)
      | _ => none
    | _ => none
end

/-- Reads a text that holds one value and blanks around it. -/
def Document.ofOctets? (s : Octets) : Option Document := do
  let (d, rest) ← readValue (s.length + 1) s
  if skipBlanks rest = [] then some d else none

end MeshControl.Json
