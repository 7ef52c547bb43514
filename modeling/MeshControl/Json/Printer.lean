import MeshControl.Json.Basic
import MeshControl.Decimal.Text

/-!
Two layouts of JSON texts: compact, without any blanks, and pretty, with one item or field to
a line and two blanks of indentation a level. Fields stand in the order of the value.
-/
namespace MeshControl.Json

def escapeHex (c : Char) : List Char :=
  let n := c.toNat
  ['\\', 'u', '0', '0', Nat.digitChar (n / 16), Nat.digitChar (n % 16)]

/-- Quotes, backslashes and controls are escaped, all else is written as it is. -/
def escapeChar (c : Char) : List Char :=
  if c = '"' then ['\\', '"']
  else if c = '\\' then ['\\', '\\']
  else if 32 ≤ c.toNat then [c]
  else if c.toNat = 8 then ['\\', 'b']
  else if c.toNat = 9 then ['\\', 't']
  else if c.toNat = 10 then ['\\', 'n']
  else if c.toNat = 12 then ['\\', 'f']
  else if c.toNat = 13 then ['\\', 'r']
  else escapeHex c

def quoted (s : String) : String :=
  String.ofList ('"' :: s.toList.flatMap escapeChar ++ ['"'])

mutual
def compact : Json → String
  | .null => "null"
  | .bool b => if b then "true" else "false"
  | .int n => toString n
  | .float x => Decimal.jsonText x
  | .str s => quoted s
  | .arr items => "[" ++ compactItems items ++ "]"
  | .obj fields => "\x7b" ++ compactFields fields ++ "\x7d"

def compactItems : List Json → String
  | [] => ""
  | [j] => compact j
  | j :: js => compact j ++ "," ++ compactItems js

def compactFields : List (String × Json) → String
  | [] => ""
  | [(k, j)] => quoted k ++ ":" ++ compact j
  | (k, j) :: fs => quoted k ++ ":" ++ compact j ++ "," ++ compactFields fs
end

def newline (level : Nat) : String := "\n" ++ String.ofList (List.replicate (2 * level) ' ')

mutual
/-- The pretty text of a value whose surroundings are indented by `level`. -/
def prettyAt (level : Nat) : Json → String
  | .arr [] => "[]"
  | .arr items => "[" ++ prettyItems (level + 1) items ++ newline level ++ "]"
  | .obj [] => "\x7b\x7d"
  | .obj fields => "\x7b" ++ prettyFields (level + 1) fields ++ newline level ++ "\x7d"
  | .null => "null"
  | .bool b => if b then "true" else "false"
  | .int n => toString n
  | .float x => Decimal.jsonText x
  | .str s => quoted s

def prettyItems (level : Nat) : List Json → String
  | [] => ""
  | [j] => newline level ++ prettyAt level j
  | j :: js => newline level ++ prettyAt level j ++ "," ++ prettyItems level js

def prettyFields (level : Nat) : List (String × Json) → String
  | [] => ""
  | [(k, j)] => newline level ++ quoted k ++ ": " ++ prettyAt level j
  | (k, j) :: fs =>
    newline level ++ quoted k ++ ": " ++ prettyAt level j ++ "," ++ prettyFields level fs
end

def pretty (j : Json) : String := prettyAt 0 j

end MeshControl.Json
