import MeshControl.Config.Message
import MeshControl.Registry.Directory

/-!
A registry in memory. Every change is an operation that gives the new registry together with
the events it causes, or an error and no new registry.
-/
namespace MeshControl.Registry

open Config (Event)

structure Memory where
  services : Table Service
  /-- In the order in which they were added. -/
  instances : List Instance
  managementPorts : Table (List Port)
deriving Inhabited

/-- What handlers are told. -/
inductive Change where
  | service (s : Service) (event : Event)
  | endpoint (i : Instance) (event : Event)
deriving DecidableEq

/-- An instance as it is declared: the service port by its name. -/
structure InstanceSpec where
  address : String
  port : Nat
  portName : String
  tags : Tags
  zone : Option String
  account : Option String
deriving DecidableEq, Inhabited

namespace Change

def text : Change → String
  | service s event => s!"service {s.hostname} {event.text}"
  | endpoint i event =>
    s!"instance {i.service.hostname}/{i.endpoint.address}:{i.endpoint.port} {event.text}"

end Change

namespace InstanceSpec

def decode {δ : Type} [Source δ] (d : δ) : Decoded InstanceSpec := do
  let r ← Decode.record
    ["address", "port", "portName", "tags", "availabilityZone", "serviceAccount"] d
  let address ← r.required "address" Decode.text
  let port ← r.required "port" (Decode.natBits 16)
  let portName ← r.withDefault "portName" "" Decode.text
  let tags ← r.withDefault "tags" Tags.empty Tags.decode
  let zone ← r.optional "availabilityZone" Decode.text
  let account ← r.optional "serviceAccount" Decode.text
  return ⟨address, port, portName, tags, zone, account⟩

end InstanceSpec

namespace Memory

def empty : Memory := ⟨Table.empty, [], Table.empty⟩

/-- Adds or replaces a service. Its instances keep the definition they were added with. -/
def addService (r : Memory) (s : Service) : Except StoreError (Memory × List Change) :=
  match s.validate with
  | [] =>
    let event := if r.services.contains s.hostname then Event.updated else .added
    .ok ({ r with services := r.services.insert s.hostname s }, [.service s event])
  | problems => .error (.invalid "service" problems)

/-- Removes a service with all its instances. -/
def removeService (r : Memory) (hostname : String) : Except StoreError (Memory × List Change) :=
  match r.services.find? hostname with
  | none => .error (.notFound "service" hostname)
  | some s =>
    let gone := r.instances.filter (·.service.hostname == hostname)
    let kept := r.instances.filter (·.service.hostname != hostname)
    .ok ({ r with services := r.services.erase hostname, instances := kept },
      gone.map (.endpoint · .deleted) ++ [.service s .deleted])

def isAt (hostname address : String) (port : Nat) (i : Instance) : Bool :=
  i.service.hostname == hostname && i.endpoint.address == address && i.endpoint.port == port

def missingPortText (hostname portName : String) : String :=
  s!"service {hostname} has no port {Text.quote portName}"

/-- The instance that a declaration describes. -/
def resolve (r : Memory) (hostname : String) (spec : InstanceSpec) :
    Except StoreError Instance :=
  match r.services.find? hostname with
  | none => .error (.notFound "service" hostname)
  | some s =>
    match Port.findName? s.ports spec.portName with
    | none => .error (.invalid "instance" [missingPortText hostname spec.portName])
    | some p =>
      if spec.address.isEmpty || spec.port == 0 then
        .error (.invalid "instance" ["instance address and port are required"])
      else match spec.tags.validate with
        | [] => .ok ⟨⟨spec.address, spec.port, p⟩, s, spec.tags, spec.zone, spec.account⟩
        | problems => .error (.invalid "instance" problems)

/-- Adds an instance, in place of one of the same service at the same address and port. -/
def addInstance (r : Memory) (hostname : String) (spec : InstanceSpec) :
    Except StoreError (Instance × Memory × List Change) :=
  (r.resolve hostname spec).map fun i =>
    let others := r.instances.filter (!isAt i.service.hostname spec.address spec.port ·)
    (i, { r with instances := others ++ [i] }, [.endpoint i .added])

def removeInstance (r : Memory) (hostname address : String) (port : Nat) :
    Except StoreError (Memory × List Change) :=
  match r.instances.find? (isAt hostname address port) with
  | none => .error (.notFound "instance" s!"{hostname}/{address}:{port}")
  | some i =>
    .ok ({ r with instances := r.instances.eraseP (isAt hostname address port) },
      [.endpoint i .deleted])

def setManagementPorts (r : Memory) (address : String) (ports : List Port) : Memory :=
  { r with managementPorts := r.managementPorts.insert address ports }

/-! ### Questions -/

def serves (hostname : String) (ports : List String) (tags : TagsList) (i : Instance) : Bool :=
  i.service.hostname == hostname &&
    (ports.isEmpty || ports.contains i.endpoint.servicePort.name) &&
    TagsList.hasSubsetOf tags i.tags

def instancesOf (r : Memory) (hostname : String) (ports : List String) (tags : TagsList) :
    List Instance :=
  r.instances.filter (serves hostname ports tags)

def instancesAt (r : Memory) (addresses : List String) : List Instance :=
  r.instances.filter fun i => addresses.contains i.endpoint.address

def accountsOf (r : Memory) (hostname : String) (ports : List String) : List String :=
  sortedSet ((r.instancesOf hostname ports []).filterMap (·.account))

instance : Directory Memory where
  services r := .ok r.services.values
  service? r hostname := .ok (r.services.find? hostname)
  instances r hostname ports tags := .ok (r.instancesOf hostname ports tags)
  hostInstances r addresses := .ok (r.instancesAt addresses)
  managementPorts r address := r.managementPorts.find? address
  accounts := Memory.accountsOf

end Memory

end MeshControl.Registry
