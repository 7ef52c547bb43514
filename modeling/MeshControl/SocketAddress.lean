import MeshControl.Address

/-!
Addresses of sockets: an address and a port, `10.0.0.1:80`. An address of version 6 stands in
brackets and may name the scope in which it holds, `[fe80::1%3]:80`.
-/
namespace MeshControl

structure SocketAddress where
  address : Address
  /-- Zero if there is none. -/
  scope : Nat
  port : Nat
deriving DecidableEq, Repr, Inhabited

namespace SocketAddress

def text (s : SocketAddress) : String :=
  match s.address with
  | .v4 .. => s!"{s.address.text}:{s.port}"
  | .v6 _ =>
    if s.scope = 0 then s!"[{s.address.text}]:{s.port}"
    else s!"[{s.address.text}%{s.scope}]:{s.port}"

/-- A number below a limit, with any zeros in front, and the rest. -/
def readNumber (limit : Nat) (cs : List Char) : Option (Nat × List Char) :=
  let n := Decimal.digitsValue (cs.takeWhile Char.isDigit)
  if cs.takeWhile Char.isDigit = [] ∨ limit ≤ n then none
  else some (n, cs.dropWhile Char.isDigit)

/-- The port that is all that is left. -/
def readPort : List Char → Option Nat
  | ':' :: cs =>
    match readNumber UInt16.size cs with
    | some (port, []) => some port
    | _ => none
  | _ => none

/-- The scope that may stand before the closing bracket, and the rest after the bracket. -/
def readScope : List Char → Option (Nat × List Char)
  | ']' :: cs => some (0, cs)
  | '%' :: cs =>
    match readNumber UInt32.size cs with
    | some (scope, ']' :: cs) => some (scope, cs)
    | _ => none
  | _ => none

def read : List Char → Option SocketAddress
  | '[' :: cs => do
    let (groups, cs) ← Address.readV6 cs
    let (scope, cs) ← readScope cs
    return ⟨.v6 groups, scope, ← readPort cs⟩
  | cs => do
    let ((a, b, c, d), cs) ← Address.readQuad cs
    return ⟨.v4 a b c d, 0, ← readPort cs⟩

def ofText? (s : String) : Option SocketAddress := read s.toList

end SocketAddress

end MeshControl
