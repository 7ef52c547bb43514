/-!
The digest SHA-256. The octets are padded to whole blocks of 64, and every block is mixed into
a state of eight words of 32 bits.
-/
namespace MeshControl.Sha256

structure State where
  a : UInt32
  b : UInt32
  c : UInt32
  d : UInt32
  e : UInt32
  f : UInt32
  g : UInt32
  h : UInt32
deriving DecidableEq, Repr, Inhabited

/-- The first 32 bits of the fractions of the square roots of the first eight primes. -/
def initial : State :=
  ⟨0x6a09e667, 0xbb67ae85, 0x3c6ef372, 0xa54ff53a, 0x510e527f, 0x9b05688c, 0x1f83d9ab, 0x5be0cd19⟩

/-- The first 32 bits of the fractions of the cube roots of the first 64 primes. -/
def roundConstants : List UInt32 := [
  0x428a2f98, 0x71374491, 0xb5c0fbcf, 0xe9b5dba5, 0x3956c25b, 0x59f111f1, 0x923f82a4, 0xab1c5ed5,
  0xd807aa98, 0x12835b01, 0x243185be, 0x550c7dc3, 0x72be5d74, 0x80deb1fe, 0x9bdc06a7, 0xc19bf174,
  0xe49b69c1, 0xefbe4786, 0x0fc19dc6, 0x240ca1cc, 0x2de92c6f, 0x4a7484aa, 0x5cb0a9dc, 0x76f988da,
  0x983e5152, 0xa831c66d, 0xb00327c8, 0xbf597fc7, 0xc6e00bf3, 0xd5a79147, 0x06ca6351, 0x14292967,
  0x27b70a85, 0x2e1b2138, 0x4d2c6dfc, 0x53380d13, 0x650a7354, 0x766a0abb, 0x81c2c92e, 0x92722c85,
  0xa2bfe8a1, 0xa81a664b, 0xc24b8b70, 0xc76c51a3, 0xd192e819, 0xd6990624, 0xf40e3585, 0x106aa070,
  0x19a4c116, 0x1e376c08, 0x2748774c, 0x34b0bcb5, 0x391c0cb3, 0x4ed8aa4a, 0x5b9cca4f, 0x682e6ff3,
  0x748f82ee, 0x78a5636f, 0x84c87814, 0x8cc70208, 0x90befffa, 0xa4506ceb, 0xbef9a3f7, 0xc67178f2]

/-! ### Padding -/

/-- The octets of a number, the highest first, as many as asked for. -/
def bigEndian (count n : Nat) : List UInt8 :=
  (List.range count).reverse.map fun i => (n / Nat.pow 256 i).toUInt8

/-- One bit, then zeros, then the length in bits, up to the end of a block. -/
def padding (length : Nat) : List UInt8 :=
  0x80 :: List.replicate ((119 - length % 64) % 64) 0 ++ bigEndian 8 (8 * length)

theorem length_bigEndian (count n : Nat) : (bigEndian count n).length = count := by
  simp [bigEndian]

/-- A padded message is a whole number of blocks. -/
theorem length_padding (length : Nat) : (length + (padding length).length) % 64 = 0 := by
  simp only [padding, List.length_append, List.length_cons, List.length_replicate,
    length_bigEndian]
  omega

def word (octets : List UInt8) : UInt32 := octets.foldl (fun w b => w <<< 8 ||| b.toUInt32) 0

/-- Cuts a list into pieces of a positive length, of which the last may be shorter. -/
def pieces {α : Type} (size : Nat) (l : List α) : List (List α) :=
  (List.range ((l.length + size - 1) / size)).map fun i => (l.drop (i * size)).take size

/-! ### Mixing -/

def rotate (w : UInt32) (n : UInt32) : UInt32 := w >>> n ||| w <<< (32 - n)

/-- The word that follows sixteen others in the schedule of a block. -/
def nextWord (window : List UInt32) : UInt32 :=
  let w (i : Nat) : UInt32 := window.getD i 0
  let low := rotate (w 1) 7 ^^^ rotate (w 1) 18 ^^^ w 1 >>> 3
  let high := rotate (w 14) 17 ^^^ rotate (w 14) 19 ^^^ w 14 >>> 10
  w 0 + low + w 9 + high

/-- The schedule of a block, as many words as asked for. -/
def schedule : Nat → List UInt32 → List UInt32
  | 0, _ => []
  | count + 1, window =>
    window.headD 0 :: schedule count (window.tail ++ [nextWord window])

namespace State

def round (s : State) (constant word : UInt32) : State :=
  let choice := (s.e &&& s.f) ^^^ (~~~s.e &&& s.g)
  let majority := (s.a &&& s.b) ^^^ (s.a &&& s.c) ^^^ (s.b &&& s.c)
  let upper := rotate s.a 2 ^^^ rotate s.a 13 ^^^ rotate s.a 22
  let lower := rotate s.e 6 ^^^ rotate s.e 11 ^^^ rotate s.e 25
  let mixed := s.h + lower + choice + constant + word
  ⟨mixed + upper + majority, s.a, s.b, s.c, s.d + mixed, s.e, s.f, s.g⟩

def add (s t : State) : State :=
  ⟨s.a + t.a, s.b + t.b, s.c + t.c, s.d + t.d, s.e + t.e, s.f + t.f, s.g + t.g, s.h + t.h⟩

def absorb (s : State) (block : List UInt8) : State :=
  let words := schedule roundConstants.length ((pieces 4 block).map word)
  s.add ((roundConstants.zip words).foldl (fun s (k, w) => s.round k w) s)

def words (s : State) : List UInt32 := [s.a, s.b, s.c, s.d, s.e, s.f, s.g, s.h]

end State

/-! ### Digests -/

def digest (octets : List UInt8) : List UInt8 :=
  let blocks := pieces 64 (octets ++ padding octets.length)
  ((blocks.foldl State.absorb initial).words).flatMap fun w => bigEndian 4 w.toNat

def hexDigits (b : UInt8) : List Char := [(b.toNat / 16).digitChar, (b.toNat % 16).digitChar]

/-- The digest in lower case hexadecimal digits. -/
def hex (octets : List UInt8) : String := String.ofList ((digest octets).flatMap hexDigits)

end MeshControl.Sha256
