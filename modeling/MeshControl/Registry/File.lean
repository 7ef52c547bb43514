import MeshControl.Failure
import MeshControl.Registry.Memory
import MeshControl.Yaml.Source

/-!
Registries written down: services with their instances, and ports for health checks by address.
Loading stops at the first entry that is refused and keeps what was loaded before it.
-/
namespace MeshControl.Registry

structure ServiceEntry where
  service : Service
  instances : List InstanceSpec
deriving Inhabited

structure File where
  services : List ServiceEntry
  managementPorts : Table (List Port)

namespace ServiceEntry

variable {δ ε : Type} [Source δ] [Source ε]

def fieldNames : List String := Service.fieldNames ++ ["instances"]

/-- The fields of the service and the list of instances stand side by side. The fields of the
service are read by way of `plain`, the instances as they are. -/
def decode (plain : δ → Decoded ε) (d : δ) : Decoded ServiceEntry := do
  let r ← Decode.namedRecord fieldNames d
  let instances ← r.withDefault "instances" [] (Decode.list InstanceSpec.decode)
  let fields ← Decode.entries plain (r.filter (·.1 != "instances"))
  let service ← Service.ofRecord fields
  return ⟨service, instances⟩

end ServiceEntry

namespace File

variable {δ ε : Type} [Source δ] [Source ε]

def empty : File := ⟨[], Table.empty⟩

def decode (plain : δ → Decoded ε) (d : δ) : Decoded File := do
  let r ← Decode.record ["services", "managementPorts"] d
  let services ← r.withDefault "services" [] (Decode.list (ServiceEntry.decode plain))
  let managementPorts ← r.withDefault "managementPorts" Table.empty
    (Decode.table (Decode.list Port.decode))
  return ⟨services, managementPorts⟩

def ofYaml (s : String) : Decoded File :=
  match Yaml.document? s with
  | some n => decode Yaml.Node.plainData n
  | none => .error .malformed

end File

/-- Why a file was not loaded, or not to its end. -/
inductive LoadError where
  | unreadable
  | refused (cause : StoreError)
deriving Inhabited

def LoadError.failure : LoadError → Failure
  | unreadable =>
    .told [s!"failed to parse registry: {Failure.unreadableDocument}", Failure.unreadableDocument]
  | refused cause => cause.failure

namespace Memory

/-- What came of loading: why it stopped, if it did, the registry and the events. -/
structure Loaded where
  error : Option LoadError
  registry : Memory
  changes : List Change

namespace Loaded

def done (r : Memory) : Loaded := ⟨none, r, []⟩

def failed (r : Memory) (e : LoadError) : Loaded := ⟨some e, r, []⟩

def refused (r : Memory) (e : StoreError) : Loaded := failed r (.refused e)

/-- Goes on loading unless it has stopped. -/
def next (l : Loaded) (step : Memory → Loaded) : Loaded :=
  match l.error with
  | some _ => l
  | none =>
    let l' := step l.registry
    { l' with changes := l.changes ++ l'.changes }

end Loaded

def loadInstances (hostname : String) (r : Memory) : List InstanceSpec → Loaded
  | [] => .done r
  | spec :: specs =>
    match r.addInstance hostname spec with
    | .error e => .refused r e
    | .ok (_, r, changes) =>
      Loaded.next ⟨none, r, changes⟩ fun r => loadInstances hostname r specs

def loadEntry (r : Memory) (entry : ServiceEntry) : Loaded :=
  match r.addService entry.service with
  | .error e => .refused r e
  | .ok (r, changes) =>
    Loaded.next ⟨none, r, changes⟩ fun r =>
      loadInstances entry.service.hostname r entry.instances

def loadServices (r : Memory) : List ServiceEntry → Loaded
  | [] => .done r
  | entry :: entries => (r.loadEntry entry).next fun r => loadServices r entries

def loadManagementPorts (r : Memory) (ports : Table (List Port)) : Memory :=
  ports.toList.foldl (fun r (address, ports) => r.setManagementPorts address ports) r

def load (r : Memory) (file : File) : Loaded :=
  (r.loadServices file.services).next fun r =>
    .done (r.loadManagementPorts file.managementPorts)

def loadYaml (r : Memory) (s : String) : Loaded :=
  match File.ofYaml s with
  | .error _ => .failed r .unreadable
  | .ok file => r.load file

end Memory

end MeshControl.Registry
