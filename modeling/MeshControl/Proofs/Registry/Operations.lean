import MeshControl.Registry.Memory

/-!
The registries that can be reached from an empty one. Operations come in any order, and one that
fails leaves the registry as it was; every service that is found is good and stands under its own
hostname.
-/
namespace MeshControl.Registry

/-- What can be asked of a registry to change it. -/
inductive Operation where
  | addService (s : Service)
  | removeService (hostname : String)
  | addInstance (hostname : String) (spec : InstanceSpec)
  | removeInstance (hostname address : String) (port : Nat)
  | setManagementPorts (address : String) (ports : List Port)

namespace Operation

/-- The new registry, unless the operation fails. -/
def result? (r : Memory) : Operation → Except StoreError Memory
  | addService s => (r.addService s).map (·.1)
  | removeService hostname => (r.removeService hostname).map (·.1)
  | addInstance hostname spec => (r.addInstance hostname spec).map (·.2.1)
  | removeInstance hostname address port => (r.removeInstance hostname address port).map (·.1)
  | setManagementPorts address ports => .ok (r.setManagementPorts address ports)

def apply (r : Memory) (op : Operation) : Memory :=
  match op.result? r with
  | .ok r' => r'
  | .error _ => r

/-- The new registry and what handlers are told, unless the operation fails. -/
def outcome? (r : Memory) : Operation → Except StoreError (Memory × List Change)
  | addService s => r.addService s
  | removeService hostname => r.removeService hostname
  | addInstance hostname spec => (r.addInstance hostname spec).map (·.2)
  | removeInstance hostname address port => r.removeInstance hostname address port
  | setManagementPorts address ports => .ok (r.setManagementPorts address ports, [])

end Operation

namespace Memory

/-- The registry that a list of operations makes of an empty one. -/
def afterOperations (ops : List Operation) : Memory := ops.foldl Operation.apply empty

/-- Services are good and stand under their own hostnames. -/
def IsSound (r : Memory) : Prop :=
  ∀ hostname s, r.services.find? hostname = some s → s.hostname = hostname ∧ s.validate = []

theorem isSound_empty : empty.IsSound := by
  intro hostname s h
  simp [empty] at h

theorem IsSound.of_services {r r' : Memory} (h : r.IsSound) (hsame : r'.services = r.services) :
    r'.IsSound := by
  intro hostname s hs
  exact h hostname s (hsame ▸ hs)

theorem IsSound.addService {r r' : Memory} (h : r.IsSound) {s : Service} {changes : List Change}
    (hok : r.addService s = .ok (r', changes)) : r'.IsSound := by
  unfold Memory.addService at hok
  split at hok
  · next hvalid =>
    obtain ⟨rfl, -⟩ := Prod.mk.inj (Except.ok.inj hok)
    intro hostname s' hs'
    rw [Table.find?_insert] at hs'
    split at hs'
    · next hhost =>
      obtain rfl := Option.some.inj hs'
      exact ⟨hhost.symm, hvalid⟩
    · exact h hostname s' hs'
  · cases hok

theorem IsSound.removeService {r r' : Memory} (h : r.IsSound) {hostname : String}
    {changes : List Change} (hok : r.removeService hostname = .ok (r', changes)) :
    r'.IsSound := by
  unfold Memory.removeService at hok
  split at hok
  · cases hok
  · obtain ⟨rfl, -⟩ := Prod.mk.inj (Except.ok.inj hok)
    intro hostname' s hs
    rw [Table.find?_erase] at hs
    split at hs
    · cases hs
    · exact h hostname' s hs

/-- Operations on instances and management ports leave the services alone. -/
theorem services_addInstance {r r' : Memory} {hostname : String} {spec : InstanceSpec}
    {i : Instance} {changes : List Change}
    (hok : r.addInstance hostname spec = .ok (i, r', changes)) : r'.services = r.services := by
  unfold addInstance at hok
  cases hresolve : r.resolve hostname spec with
  | error e =>
    rw [hresolve] at hok
    cases hok
  | ok j =>
    rw [hresolve] at hok
    cases hok
    rfl

theorem services_removeInstance {r r' : Memory} {hostname address : String} {port : Nat}
    {changes : List Change} (hok : r.removeInstance hostname address port = .ok (r', changes)) :
    r'.services = r.services := by
  unfold removeInstance at hok
  split at hok
  · cases hok
  · obtain ⟨rfl, -⟩ := Prod.mk.inj (Except.ok.inj hok)
    rfl

theorem IsSound.apply {r : Memory} (h : r.IsSound) (op : Operation) : (op.apply r).IsSound := by
  unfold Operation.apply
  split
  · next r' hok =>
    cases op with
    | addService s =>
      obtain ⟨⟨r'', changes⟩, hadd, rfl⟩ := exists_of_map_eq_ok hok
      exact h.addService hadd
    | removeService hostname =>
      obtain ⟨⟨r'', changes⟩, hremove, rfl⟩ := exists_of_map_eq_ok hok
      exact h.removeService hremove
    | addInstance hostname spec =>
      obtain ⟨⟨i, r'', changes⟩, hadd, rfl⟩ := exists_of_map_eq_ok hok
      exact h.of_services (services_addInstance hadd)
    | removeInstance hostname address port =>
      obtain ⟨⟨r'', changes⟩, hremove, rfl⟩ := exists_of_map_eq_ok hok
      exact h.of_services (services_removeInstance hremove)
    | setManagementPorts address ports =>
      obtain rfl := Except.ok.inj hok
      exact h.of_services rfl
  · exact h

theorem isSound_afterOperations (ops : List Operation) : (afterOperations ops).IsSound :=
  List.foldlRecOn ops Operation.apply isSound_empty fun _ h op _ => h.apply op

/-- A service is known by its hostname alone. -/
theorem IsSound.service_eq {r : Memory} (h : r.IsSound) {s t : Service}
    (hs : s ∈ r.services.values) (ht : t ∈ r.services.values) (hname : s.hostname = t.hostname) :
    s = t := by
  obtain ⟨j, hj⟩ := (r.services.mem_values_iff s).mp hs
  obtain ⟨k, hk⟩ := (r.services.mem_values_iff t).mp ht
  obtain ⟨rfl, -⟩ := h j s hj
  obtain ⟨rfl, -⟩ := h k t hk
  rw [hname, hk] at hj
  exact (Option.some.inj hj).symm

theorem IsSound.validate {r : Memory} (h : r.IsSound) {s : Service}
    (hs : s ∈ r.services.values) : s.validate = [] := by
  obtain ⟨k, hk⟩ := (r.services.mem_values_iff s).mp hs
  exact (h k s hk).2

/-! ### What handlers are told -/

/-- The registry with the management ports of another. -/
def withPortsOf (r q : Memory) : Memory := { r with managementPorts := q.managementPorts }

/-- An operation that tells handlers nothing has changed management ports at most. -/
theorem withPortsOf_eq_of_outcome {r r' : Memory} {op : Operation}
    (hok : op.outcome? r = .ok (r', [])) (q : Memory) : r'.withPortsOf q = r.withPortsOf q := by
  cases op with
  | addService s =>
    rw [Operation.outcome?, addService] at hok
    split at hok <;> cases hok
  | removeService hostname =>
    rw [Operation.outcome?, removeService] at hok
    split at hok
    · cases hok
    · have htold := (Prod.mk.inj (Except.ok.inj hok)).2
      exact absurd (List.append_eq_nil_iff.mp htold).2 (List.cons_ne_nil _ _)
  | addInstance hostname spec =>
    rw [Operation.outcome?, addInstance] at hok
    cases hresolve : r.resolve hostname spec <;> rw [hresolve] at hok <;> cases hok
  | removeInstance hostname address port =>
    rw [Operation.outcome?, removeInstance] at hok
    split at hok <;> cases hok
  | setManagementPorts address ports =>
    obtain ⟨rfl, -⟩ := Prod.mk.inj (Except.ok.inj hok)
    rfl

end Memory

end MeshControl.Registry
