import MeshControl.Registry.Memory

/-!
A registry that handlers watch. Operations act on it step by step: what one has done before it
fails stays done. Handlers are told after the registry has changed, one change at a time, and act
on a world of their own.
-/
namespace MeshControl.Registry

open Config (Event)

/-- What is called for each change, in the order in which it was registered. -/
structure Handlers (ω : Type) where
  service : List (Service → Event → ω → ω)
  endpoint : List (Instance → Event → ω → ω)

namespace Handlers

variable {ω : Type}

def tell (h : Handlers ω) (world : ω) : Change → ω
  | .service s event => h.service.foldl (fun world handler => handler s event world) world
  | .endpoint i event => h.endpoint.foldl (fun world handler => handler i event world) world

/-- One handler of each kind, which write down what they are told. -/
def recording : Handlers (List Change) where
  service := [fun s event log => log ++ [.service s event]]
  endpoint := [fun i event log => log ++ [.endpoint i event]]

end Handlers

structure Watched (ω : Type) where
  registry : Memory
  handlers : Handlers ω
  world : ω

namespace Watched

variable {ω : Type}

/-- An empty registry on which handlers are registered. -/
def start (handlers : Handlers ω) (world : ω) : Watched ω := ⟨Memory.empty, handlers, world⟩

def tell (w : Watched ω) (c : Change) : Watched ω :=
  { w with world := w.handlers.tell w.world c }

def setServices (w : Watched ω) (services : Table Service) : Watched ω :=
  { w with registry := { w.registry with services } }

def setInstances (w : Watched ω) (instances : List Instance) : Watched ω :=
  { w with registry := { w.registry with instances } }

def addService (w : Watched ω) (s : Service) : Except StoreError Unit × Watched ω :=
  match s.validate with
  | [] =>
    let prior := w.registry.services.find? s.hostname
    let w := w.setServices (w.registry.services.insert s.hostname s)
    let event := if prior.isSome then Event.updated else .added
    (.ok (), w.tell (.service s event))
  | problems => (.error (.invalid "service" problems), w)

/-- The service is taken out before it is known whether it was there. -/
def removeService (w : Watched ω) (hostname : String) : Except StoreError Unit × Watched ω :=
  let prior := w.registry.services.find? hostname
  let w := w.setServices (w.registry.services.erase hostname)
  match prior with
  | none => (.error (.notFound "service" hostname), w)
  | some s =>
    let (gone, kept) := w.registry.instances.partition (·.service.hostname == hostname)
    let w := w.setInstances kept
    let w := gone.foldl (fun w i => w.tell (.endpoint i .deleted)) w
    (.ok (), w.tell (.service s .deleted))

def addInstance (w : Watched ω) (hostname : String) (spec : InstanceSpec) :
    Except StoreError Instance × Watched ω :=
  match w.registry.resolve hostname spec with
  | .error e => (.error e, w)
  | .ok i =>
    let same := Memory.isAt i.service.hostname i.endpoint.address i.endpoint.port
    let w := w.setInstances (w.registry.instances.filter (!same ·))
    let w := w.setInstances (w.registry.instances ++ [i])
    (.ok i, w.tell (.endpoint i .added))

def removeInstance (w : Watched ω) (hostname address : String) (port : Nat) :
    Except StoreError Unit × Watched ω :=
  match w.registry.instances.findFinIdx? (Memory.isAt hostname address port) with
  | none => (.error (.notFound "instance" s!"{hostname}/{address}:{port}"), w)
  | some n =>
    let i := w.registry.instances[n]
    let w := w.setInstances (w.registry.instances.eraseIdx n)
    (.ok (), w.tell (.endpoint i .deleted))

def setManagementPorts (w : Watched ω) (address : String) (ports : List Port) : Watched ω :=
  { w with registry := w.registry.setManagementPorts address ports }

end Watched

end MeshControl.Registry
