import MeshControl.Json.Printer
import MeshControl.Text.Split

/-!
Requests and responses as the services of the mesh see them, and the targets that requests may
name.
-/
namespace MeshControl.Http

structure Response where
  status : Nat
  contentType : Option String
  body : String
deriving DecidableEq, Repr, Inhabited

namespace Response

def plain (status : Nat) (body : String) : Response := ⟨status, none, body⟩

def ofType (status : Nat) (contentType body : String) : Response :=
  ⟨status, some contentType, body⟩

def jsonType : String := "application/json"

def json (status : Nat) (body : Json) : Response := ofType status jsonType body.pretty

end Response

/-! ### Methods and targets -/

def isMethodChar (c : Char) : Bool := c.isAlphanum || "!#$%&'*+-.^_`|~".toList.contains c

def isMethod (s : String) : Bool := !s.isEmpty && s.toList.all isMethodChar

/-- Visible characters of ASCII other than some. -/
def isVisibleBut (others : List Nat) (c : Char) : Bool :=
  33 ≤ c.toNat && c.toNat ≤ 126 && !others.contains c.toNat

/-- Paths hold visible characters, but no number sign, angle, question mark or grave accent. -/
def isPathChar (c : Char) : Bool := isVisibleBut [0x23, 0x3c, 0x3e, 0x3f, 0x60] c

/-- Queries hold visible characters, but no quote, number sign or angle. -/
def isQueryChar (c : Char) : Bool := isVisibleBut [0x22, 0x23, 0x3c, 0x3e] c

/-- The text up to a fragment. -/
def beforeFragment (cs : List Char) : List Char := cs.takeWhile (· ≠ '#')

/-- The path of a target that begins with one, without query and fragment. -/
def localPath? (cs : List Char) : Option String :=
  let whole := beforeFragment cs
  let path := whole.takeWhile (· ≠ '?')
  let query := (whole.dropWhile (· ≠ '?')).drop 1
  if path.all isPathChar && query.all isQueryChar then some (String.ofList path) else none

def isAuthorityChar (c : Char) : Bool :=
  c.isAlphanum || "!$&'()*+,-.:;=@[]_~".toList.contains c

def isSchemeChar (c : Char) : Bool := c.isAlphanum || ['+', '-', '.'].contains c

/-- What follows the scheme, if the target names one. -/
def afterScheme? (cs : List Char) : Option (List Char) :=
  match cs.dropWhile isSchemeChar with
  | ':' :: '/' :: '/' :: rest => if cs.takeWhile isSchemeChar = [] then none else some rest
  | _ => none

/-- The path of a target with scheme and authority. -/
def absolutePath? (cs : List Char) : Option String :=
  let ends (c : Char) : Bool := ['/', '?', '#'].contains c
  let authority := cs.takeWhile (!ends ·)
  if authority ≠ [] ∧ authority.all isAuthorityChar then
    (localPath? (cs.dropWhile (!ends ·))).map fun p => if p.isEmpty then "/" else p
  else none

/-- The path of the target of a request, if it is a target. A lone authority has an empty
path. -/
def pathOf? (target : String) : Option String :=
  match target.toList with
  | [] => none
  | ['*'] => some "*"
  | '/' :: rest => localPath? ('/' :: rest)
  | cs =>
    match afterScheme? cs with
    | some rest => absolutePath? rest
    | none => if cs.all isAuthorityChar then some "" else none

end MeshControl.Http
