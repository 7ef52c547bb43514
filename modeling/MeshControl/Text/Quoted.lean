import MeshControl.Text.Printable

/-!
Quoted texts as they stand inside messages: between double quotes, with quotes and
backslashes escaped, four controls by letter, and every other character that does not show
up by itself by its code point in braces.
-/
namespace MeshControl.Text

/-- The code point in lower-case hexadecimal, without leading zeros. -/
def codePoint (c : Char) : List Char :=
  ['\\', 'u', '\x7b'] ++ Nat.toDigits 16 c.toNat ++ ['\x7d']

def quoteChar (c : Char) : List Char :=
  if c = '"' then ['\\', '"']
  else if c = '\\' then ['\\', '\\']
  else if c = '\n' then ['\\', 'n']
  else if c = '\r' then ['\\', 'r']
  else if c = '\t' then ['\\', 't']
  else if c = '\x00' then ['\\', '0']
  else if isPrintable c then [c]
  else codePoint c

def quote (s : String) : String :=
  String.ofList ('"' :: s.toList.flatMap quoteChar ++ ['"'])

/-- A printable character other than the quote and the backslash is kept. -/
theorem quoteChar_printable {c : Char} (lo : 32 ≤ c.toNat) (hi : c.toNat < 127)
    (hq : c ≠ '"') (hb : c ≠ '\\') : quoteChar c = [c] := by
  have hn : c ≠ '\n' := by rintro rfl; revert lo; decide
  have hr : c ≠ '\r' := by rintro rfl; revert lo; decide
  have ht : c ≠ '\t' := by rintro rfl; revert lo; decide
  have hz : c ≠ '\x00' := by rintro rfl; revert lo; decide
  simp [quoteChar, hq, hb, hn, hr, ht, hz, isPrintable_of_ascii lo hi]

end MeshControl.Text
