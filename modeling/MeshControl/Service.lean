import MeshControl.Decimal.Read
import MeshControl.Tags

/-!
Services of the mesh: a hostname with the ports it serves, and the instances that answer for
it.
-/
namespace MeshControl

inductive Protocol where
  | grpc
  | https
  | http2
  | http
  | tcp
  | udp
deriving DecidableEq, Repr, Inhabited

namespace Protocol

def text : Protocol → String
  | grpc => "GRPC"
  | https => "HTTPS"
  | http2 => "HTTP2"
  | http => "HTTP"
  | tcp => "TCP"
  | udp => "UDP"

def all : List Protocol := [grpc, https, http2, http, tcp, udp]

/-- The protocol of a name in any case. -/
def ofText? (s : String) : Option Protocol :=
  let upper := String.ofList (s.toList.map Char.toUpper)
  all.find? (·.text == upper)

/-- Names that are not known stand for TCP. -/
def ofText (s : String) : Protocol := (ofText? s).getD tcp

def unknownText (s : String) : String := s!"unknown protocol {Text.quote s}"

def isHttp : Protocol → Bool
  | http | http2 | grpc => true
  | _ => false

def isTcp : Protocol → Bool
  | tcp | https => true
  | _ => false

def isHttp2 : Protocol → Bool
  | http2 | grpc => true
  | _ => false

theorem ofText_text (p : Protocol) : ofText p.text = p := by cases p <;> decide +kernel

end Protocol

structure Port where
  name : String
  number : Nat
  protocol : Protocol
deriving DecidableEq, Inhabited

namespace Port

def json (p : Port) : Json :=
  .obj [("name", .str p.name), ("port", .nat p.number), ("protocol", .str p.protocol.text)]

def decode {δ : Type} [Source δ] (d : δ) : Decoded Port := do
  let r ← Decode.record ["name", "port", "protocol"] d
  let name ← r.withDefault "name" "" Decode.text
  let number ← r.required "port" (Decode.natBits 16)
  let protocol ← r.withDefault "protocol" .http fun d => (Decode.text d).map Protocol.ofText
  return ⟨name, number, protocol⟩

/-- A decimal number of 16 bits, with an optional plus sign. -/
def numberOfText? (s : String) : Option Nat :=
  let digits := match s.toList with
    | '+' :: cs => cs
    | cs => cs
  (Decimal.allDigits? digits).filter (· < UInt16.size)

theorem numberOfText?_toString {n : Nat} (h : n < UInt16.size) :
    numberOfText? (toString n) = some n := by
  have hplus : '+' ∉ (toString n).toList := Decimal.notMem_toString_nat (by decide) n
  rw [numberOfText?]
  split
  · next cs hcs => exact absurd (hcs ▸ List.mem_cons_self) hplus
  · rw [Decimal.allDigits?_toString]
    exact Option.filter_some_pos (by simpa using h)

def findName? (ports : List Port) (name : String) : Option Port :=
  ports.find? (·.name == name)

def findNumber? (ports : List Port) (number : Nat) : Option Port :=
  ports.find? (·.number == number)

end Port

structure Service where
  /-- A domain name, unique within the mesh. -/
  hostname : String
  /-- The virtual address of the service, if it has one. -/
  address : Option String
  ports : List Port
  /-- For a service outside the mesh, the name under which proxies reach it. -/
  externalName : Option String
deriving DecidableEq, Inhabited

namespace Service

def isExternal (s : Service) : Bool := s.externalName.isSome

/-- Problems of the ports, `seen` being the good names of the ports before them. -/
def portProblems (several : Bool) : List String → List Port → Problems
  | _, [] => []
  | seen, p :: ps =>
    let zero := problemIf (p.number == 0) s!"invalid service port value 0 for {Text.quote p.name}"
    if p.name.isEmpty then
      problemIf several "empty port names are not allowed for services with multiple ports" ++
        zero ++ portProblems several seen ps
    else if !Validation.isLabel p.name then
      s!"invalid port name: {Text.quote p.name}" :: zero ++ portProblems several seen ps
    else if seen.contains p.name then
      s!"duplicate port name: {Text.quote p.name}" :: zero ++ portProblems several seen ps
    else zero ++ portProblems several (p.name :: seen) ps

def validate (s : Service) : Problems :=
  Validation.fqdn s.hostname ++
    problemIf s.ports.isEmpty "service must have at least one declared port" ++
    portProblems (1 < s.ports.length) [] s.ports

def json (s : Service) : Json :=
  Json.object [
    Json.field "hostname" (.str s.hostname),
    Json.optional "address" (s.address.map .str),
    Json.field "ports" (.arr (s.ports.map Port.json)),
    Json.optional "externalName" (s.externalName.map .str)]

def fieldNames : List String := ["hostname", "address", "ports", "externalName"]

def ofRecord {δ : Type} [Source δ] (r : Decode.Record δ) : Decoded Service := do
  let hostname ← r.required "hostname" Decode.text
  let address ← r.optional "address" Decode.text
  let ports ← r.withDefault "ports" [] (Decode.list Port.decode)
  let externalName ← r.optional "externalName" Decode.text
  return ⟨hostname, address, ports, externalName⟩

def decode {δ : Type} [Source δ] (d : δ) : Decoded Service := do
  ofRecord (← Decode.record fieldNames d)

end Service

/-- Where one instance of a service listens, and the service port it serves. -/
structure Endpoint where
  address : String
  port : Nat
  servicePort : Port
deriving DecidableEq, Inhabited

structure Instance where
  endpoint : Endpoint
  service : Service
  tags : Tags
  zone : Option String
  /-- The identity the workload runs under. -/
  account : Option String
deriving DecidableEq, Inhabited

def Instance.json (i : Instance) : Json :=
  .obj [("address", .str i.endpoint.address), ("port", .nat i.endpoint.port),
    ("servicePort", i.endpoint.servicePort.json), ("hostname", .str i.service.hostname),
    ("servicePorts", .arr (i.service.ports.map fun p => .str p.name)), ("tags", i.tags.json),
    ("availabilityZone", (i.zone.map Json.str).getD .null),
    ("serviceAccount", (i.account.map Json.str).getD .null)]

end MeshControl
