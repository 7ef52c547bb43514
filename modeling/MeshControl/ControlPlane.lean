import MeshControl.Config.Front
import MeshControl.Discovery.Service

/-!
The control plane as a whole: a registry and a store, the discovery service over both, and the
wiring between them. Whatever changes in the registry or in the store makes the service forget
its answers.
-/
namespace MeshControl

open Config Registry

structure ControlPlane (ρ σ : Type) where
  mesh : Mesh
  registry : ρ
  front : Front σ
  service : Discovery.Service

namespace ControlPlane

variable {ρ σ : Type} [Directory ρ] [Store σ]

/-- The types of configuration that answers depend on. -/
def watchedTypes : List String :=
  [Rule.routeRuleType, Rule.destinationPolicyType, Rule.ingressRuleType]

/-- Forgets all answers, once for every one of some changes. -/
def clear (p : ControlPlane ρ σ) (changes : Nat) : ControlPlane ρ σ :=
  { p with service := (List.replicate changes ()).foldl (fun s _ => s.clear) p.service }

/-- Does what is due. -/
def settle (p : ControlPlane ρ σ) : ControlPlane ρ σ :=
  let (front, changes) := p.front.settle
  { p with front }.clear changes

/-- A control plane that has just started. -/
def new (mesh : Mesh) (registry : ρ) (store : σ) (resync : Nat) (caching live : Bool) :
    ControlPlane ρ σ :=
  settle ⟨mesh, registry, Front.new store resync watchedTypes live, .new caching⟩

def advance (p : ControlPlane ρ σ) (time : Nat) : ControlPlane ρ σ :=
  let (front, changes) := p.front.advance time
  { p with front }.clear changes

/-- Answers a discovery request, during which the service may be changed by `meanwhile`. -/
def discover (p : ControlPlane ρ σ)
    (meanwhile : Discovery.Endpoint → Discovery.Service → Discovery.Service)
    (method path : String) : Http.Response × ControlPlane ρ σ :=
  let (response, service, front) :=
    p.service.handleWhile meanwhile p.mesh p.registry p.front method path
  (response, { p with service, front })

end ControlPlane

end MeshControl
