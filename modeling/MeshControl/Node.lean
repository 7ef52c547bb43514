import MeshControl.Address
import MeshControl.Text.Quoted

/-!
Identities of proxies, written `role~ip~id~domain`. A bare address stands for a sidecar.
-/
namespace MeshControl

inductive Role where
  | sidecar
  | ingress
  | egress
deriving DecidableEq, Repr, Inhabited

structure Node where
  role : Role
  address : Address
  id : String
  domain : String
deriving DecidableEq, Repr, Inhabited

inductive NodeError where
  | format (s : String)
  | role (s : String)
  | address (s : String)
deriving DecidableEq, Repr

def Role.text : Role → String
  | sidecar => "sidecar"
  | ingress => "ingress"
  | egress => "egress"

def Role.all : List Role := [sidecar, ingress, egress]

def Role.ofText? (s : String) : Option Role := Role.all.find? (·.text == s)

def NodeError.text : NodeError → String
  | format s => s!"expected role~ip~id~domain, got {Text.quote s}"
  | role s => s!"unknown proxy role {Text.quote s}"
  | address s => s!"invalid IP address {Text.quote s}"

namespace Node

def ofSidecar (address : Address) : Node := ⟨.sidecar, address, "", ""⟩

def text (n : Node) : String :=
  Text.join "~" [n.role.text, n.address.text, n.id, n.domain]

def readRole (s : String) : Except NodeError Role :=
  match Role.ofText? s with
  | some role => .ok role
  | none => .error (.role s)

def readAddress (s : String) : Except NodeError Address :=
  match Address.ofText? s with
  | some address => .ok address
  | none => .error (.address s)

def ofText (s : String) : Except NodeError Node :=
  match Text.split '~' s with
  | [address] => (readAddress address).map ofSidecar
  | [role, address, id, domain] => do
    let role ← readRole role
    let address ← readAddress address
    return ⟨role, address, id, domain⟩
  | _ => .error (.format s)

end Node

end MeshControl
