import MeshControl.Proofs.Registry.Operations
import MeshControl.Registry.Watched

/-!
A registry stays consistent under every sequence of operations, and an operation is done as a
whole or not at all: one that fails changes nothing and tells no handler. So a registry that
handlers watch does what the plain operations say, and invariants go by these.
-/
namespace MeshControl

open Registry

/-- A key that is not in a table can be erased without effect. -/
theorem Table.erase_of_absent {α : Type} {t : Table α} {k : String} (h : t.find? k = none) :
    t.erase k = t := by
  apply ext
  refine List.filter_eq_self.mpr fun e he => bne_iff_ne.mpr ?_
  rintro rfl
  rw [(t.mem_toList_iff e.1 e.2).mp he] at h
  cases h

/-- Where an instance stands: no two instances of a registry share all of it. -/
structure Registry.Site where
  hostname : String
  address : String
  port : Nat
deriving DecidableEq

def Instance.site (i : Instance) : Site := ⟨i.service.hostname, i.endpoint.address, i.endpoint.port⟩

namespace Registry

/-- An instance that was declared serves a named port of the service that is registered, and has
an address, a port and good tags. -/
theorem Memory.resolve_eq_ok {r : Memory} {hostname : String} {spec : InstanceSpec} {i : Instance}
    (h : r.resolve hostname spec = .ok i) :
    ∃ s p, r.services.find? hostname = some s ∧ Port.findName? s.ports spec.portName = some p ∧
      spec.address ≠ "" ∧ spec.port ≠ 0 ∧ spec.tags.validate = [] ∧
      i = ⟨⟨spec.address, spec.port, p⟩, s, spec.tags, spec.zone, spec.account⟩ := by
  unfold resolve at h
  cases hs : r.services.find? hostname with
  | none => simp [hs] at h
  | some s =>
    cases hp : Port.findName? s.ports spec.portName with
    | none => simp [hs, hp] at h
    | some p =>
      simp only [hs, hp] at h
      split at h
      · cases h
      · next hplaced =>
        simp only [Bool.or_eq_true, String.isEmpty_iff, beq_iff_eq, not_or] at hplaced
        split at h
        · next htags =>
          cases h
          exact ⟨s, p, rfl, hp, hplaced.1, hplaced.2, htags, rfl⟩
        · cases h

/-! ### All or nothing -/

namespace Watched

variable {ω : Type}

@[simp] theorem registry_tell (w : Watched ω) (c : Change) : (w.tell c).registry = w.registry := rfl

@[simp] theorem handlers_tell (w : Watched ω) (c : Change) : (w.tell c).handlers = w.handlers := rfl

/-- The registry and its world after changes were made and told. -/
def moved (w : Watched ω) (r : Memory) (told : List Change) : Watched ω :=
  { w with registry := r, world := told.foldl w.handlers.tell w.world }

theorem foldl_tell (w : Watched ω) (told : List Change) :
    told.foldl tell w = w.moved w.registry told := by
  induction told generalizing w with
  | nil => rfl
  | cons c told ih => rw [List.foldl_cons, ih]; rfl

/-- What a plain operation comes to for a registry that is watched. -/
def settled {α : Type} (w : Watched ω) : Except StoreError (α × Memory × List Change) →
    Except StoreError α × Watched ω
  | .ok (a, r, told) => (.ok a, w.moved r told)
  | .error e => (.error e, w)

theorem addService_eq (w : Watched ω) (s : Service) :
    w.addService s = w.settled ((w.registry.addService s).map ((), ·)) := by
  unfold addService Memory.addService
  cases s.validate <;> rfl

theorem removeService_eq (w : Watched ω) (hostname : String) :
    w.removeService hostname = w.settled ((w.registry.removeService hostname).map ((), ·)) := by
  simp only [removeService, Memory.removeService]
  cases hprior : w.registry.services.find? hostname with
  | none =>
    have hkept : w.setServices (w.registry.services.erase hostname) = w := by
      rw [setServices, Table.erase_of_absent hprior]
    simp only [hkept]
    rfl
  | some s =>
    simp only [List.partition_eq_filter_filter, Except.map, settled, moved, List.foldl_append,
      List.foldl_map]
    rw [← List.foldl_map (g := tell) (f := fun i => Change.endpoint i .deleted), foldl_tell]
    simp only [moved, tell, setServices, setInstances, List.foldl_map]
    rfl

theorem addInstance_eq (w : Watched ω) (hostname : String) (spec : InstanceSpec) :
    w.addInstance hostname spec = w.settled (w.registry.addInstance hostname spec) := by
  unfold addInstance Memory.addInstance
  cases hresolve : w.registry.resolve hostname spec with
  | error e => rfl
  | ok i =>
    obtain ⟨s, p, -, -, -, -, -, rfl⟩ := Memory.resolve_eq_ok hresolve
    rfl

theorem removeInstance_eq (w : Watched ω) (hostname address : String) (port : Nat) :
    w.removeInstance hostname address port =
      w.settled ((w.registry.removeInstance hostname address port).map ((), ·)) := by
  unfold removeInstance Memory.removeInstance
  rw [List.find?_eq_map_findFinIdx?_getElem, List.eraseP_eq_eraseIdx,
    List.findIdx?_eq_map_findFinIdx?_val]
  cases w.registry.instances.findFinIdx? (Memory.isAt hostname address port) <;> rfl

/-- Carries out an operation. -/
def perform (w : Watched ω) : Operation → Except StoreError Unit × Watched ω
  | .addService s => w.addService s
  | .removeService hostname => w.removeService hostname
  | .addInstance hostname spec =>
    ((w.addInstance hostname spec).1.map fun _ => (), (w.addInstance hostname spec).2)
  | .removeInstance hostname address port => w.removeInstance hostname address port
  | .setManagementPorts address ports => (.ok (), w.setManagementPorts address ports)

/-- The registry after operations of which any may have failed. -/
def after (w : Watched ω) (ops : List Operation) : Watched ω :=
  ops.foldl (fun w op => (w.perform op).2) w

theorem perform_eq (w : Watched ω) (op : Operation) :
    w.perform op = w.settled ((op.outcome? w.registry).map ((), ·)) := by
  cases op with
  | addService s => exact w.addService_eq s
  | removeService hostname => exact w.removeService_eq hostname
  | addInstance hostname spec =>
    rw [perform, addInstance_eq, Operation.outcome?]
    cases w.registry.addInstance hostname spec <;> rfl
  | removeInstance hostname address port => exact w.removeInstance_eq hostname address port
  | setManagementPorts address ports => rfl

/-- An operation either fails and leaves all as it was, or makes and tells its changes. -/
theorem perform_cases (w : Watched ω) (op : Operation) :
    (∃ e, op.outcome? w.registry = .error e ∧ w.perform op = (.error e, w)) ∨
      ∃ r told, op.outcome? w.registry = .ok (r, told) ∧
        w.perform op = (.ok (), w.moved r told) := by
  rw [perform_eq]
  cases op.outcome? w.registry with
  | error e => exact .inl ⟨e, rfl, rfl⟩
  | ok result => exact .inr ⟨result.1, result.2, rfl, rfl⟩

end Watched

/-! ### Consistency -/

namespace Memory

/-- Services are good and stand under their hostnames. Instances stand at different sites, each
belongs to a service that is registered and serves a port of the definition it was added with. -/
structure IsConsistent (r : Memory) : Prop where
  services : r.IsSound
  apart : r.instances.Pairwise fun i j => i.site ≠ j.site
  registered : ∀ i ∈ r.instances, r.services.contains i.service.hostname = true
  serves : ∀ i ∈ r.instances, i.endpoint.servicePort ∈ i.service.ports
  addressed : ∀ i ∈ r.instances, i.endpoint.address ≠ "" ∧ i.endpoint.port ≠ 0
  tagged : ∀ i ∈ r.instances, i.tags.validate = []

theorem isConsistent_empty : empty.IsConsistent where
  services := isSound_empty
  apart := .nil
  registered := by simp [empty]
  serves := by simp [empty]
  addressed := by simp [empty]
  tagged := by simp [empty]

theorem isAt_iff {hostname address : String} {port : Nat} {i : Instance} :
    isAt hostname address port i = true ↔ i.site = ⟨hostname, address, port⟩ := by
  simp [isAt, Instance.site, and_assoc]

/-- A registry with some of the instances of another, and services of all their hostnames. -/
theorem IsConsistent.sublist {r : Memory} (h : r.IsConsistent) {r' : Memory}
    (hsound : r'.IsSound) (hinstances : r'.instances.Sublist r.instances)
    (hregistered : ∀ i ∈ r'.instances, r.services.contains i.service.hostname = true →
      r'.services.contains i.service.hostname = true) : r'.IsConsistent where
  services := hsound
  apart := h.apart.sublist hinstances
  registered i hi := hregistered i hi (h.registered i (hinstances.subset hi))
  serves i hi := h.serves i (hinstances.subset hi)
  addressed i hi := h.addressed i (hinstances.subset hi)
  tagged i hi := h.tagged i (hinstances.subset hi)

theorem IsConsistent.addService {r r' : Memory} (h : r.IsConsistent) {s : Service}
    {told : List Change} (hok : r.addService s = .ok (r', told)) : r'.IsConsistent := by
  have hsound := h.services.addService hok
  unfold Memory.addService at hok
  split at hok
  · obtain ⟨rfl, -⟩ := Prod.mk.inj (Except.ok.inj hok)
    refine h.sublist hsound (List.Sublist.refl _) ?_
    intro i _ hi
    simp only [Table.contains, Table.find?_insert]
    split
    · rfl
    · exact hi
  · cases hok

theorem IsConsistent.removeService {r r' : Memory} (h : r.IsConsistent) {hostname : String}
    {told : List Change} (hok : r.removeService hostname = .ok (r', told)) : r'.IsConsistent := by
  have hsound := h.services.removeService hok
  unfold Memory.removeService at hok
  split at hok
  · cases hok
  · obtain ⟨rfl, -⟩ := Prod.mk.inj (Except.ok.inj hok)
    refine h.sublist hsound List.filter_sublist ?_
    intro i hi hregistered
    have hother : i.service.hostname ≠ hostname := by simpa using (List.mem_filter.mp hi).2
    simp only [Table.contains, Table.find?_erase, if_neg hother]
    exact hregistered

theorem IsConsistent.removeInstance {r r' : Memory} (h : r.IsConsistent)
    {hostname address : String} {port : Nat} {told : List Change}
    (hok : r.removeInstance hostname address port = .ok (r', told)) : r'.IsConsistent := by
  have hsound := h.services.of_services (services_removeInstance hok)
  unfold Memory.removeInstance at hok
  split at hok
  · cases hok
  · obtain ⟨rfl, -⟩ := Prod.mk.inj (Except.ok.inj hok)
    exact h.sublist hsound List.eraseP_sublist fun _ _ hi => hi

/-- The instances when one takes its site from whatever held it. -/
def taking (instances : List Instance) (i : Instance) : List Instance :=
  instances.filter (!isAt i.service.hostname i.endpoint.address i.endpoint.port ·) ++ [i]

theorem mem_others {instances : List Instance} {i j : Instance} :
    j ∈ instances.filter (!isAt i.service.hostname i.endpoint.address i.endpoint.port ·) ↔
      j ∈ instances ∧ j.site ≠ i.site := by
  rw [List.mem_filter, Bool.not_eq_true', ← Bool.not_eq_true, isAt_iff]
  rfl

theorem mem_taking {instances : List Instance} {i j : Instance} :
    j ∈ taking instances i ↔ j ∈ instances ∧ j.site ≠ i.site ∨ j = i := by
  rw [taking, List.mem_append, mem_others, List.mem_singleton]

theorem instances_addInstance {r r' : Memory} {hostname : String} {spec : InstanceSpec}
    {i : Instance} {told : List Change} (hok : r.addInstance hostname spec = .ok (i, r', told)) :
    r.resolve hostname spec = .ok i ∧ r' = { r with instances := taking r.instances i } ∧
      told = [.endpoint i .added] := by
  obtain ⟨j, hj, heq⟩ := exists_of_map_eq_ok hok
  obtain ⟨s, p, -, -, -, -, -, rfl⟩ := resolve_eq_ok hj
  obtain ⟨rfl, hrest⟩ := Prod.mk.inj heq
  obtain ⟨rfl, rfl⟩ := Prod.mk.inj hrest
  exact ⟨hj, rfl, rfl⟩

theorem IsConsistent.addInstance {r r' : Memory} (h : r.IsConsistent) {hostname : String}
    {spec : InstanceSpec} {i : Instance} {told : List Change}
    (hok : r.addInstance hostname spec = .ok (i, r', told)) : r'.IsConsistent := by
  obtain ⟨hresolve, rfl, -⟩ := instances_addInstance hok
  obtain ⟨s, p, hs, hp, haddress, hport, htags, hi⟩ := resolve_eq_ok hresolve
  obtain ⟨rfl, -⟩ := h.services hostname s hs
  have hall : ∀ P : Instance → Prop, (∀ j ∈ r.instances, P j) → P i →
      ∀ j ∈ taking r.instances i, P j := by
    intro P hold hnew j hj
    rcases mem_taking.mp hj with ⟨hmem, -⟩ | rfl
    · exact hold j hmem
    · exact hnew
  constructor
  · exact h.services.of_services rfl
  · refine List.pairwise_append.mpr ⟨h.apart.filter _, List.pairwise_singleton _ i, ?_⟩
    intro j hj k hk
    rw [List.mem_singleton.mp hk]
    exact (mem_others.mp hj).2
  · exact hall _ h.registered (by simp [hi, Table.contains, hs])
  · exact hall _ h.serves (hi ▸ List.mem_of_find?_eq_some hp)
  · exact hall _ h.addressed (hi ▸ ⟨haddress, hport⟩)
  · exact hall _ h.tagged (hi ▸ htags)

theorem IsConsistent.outcome? {r r' : Memory} (h : r.IsConsistent) {op : Operation}
    {told : List Change} (hok : op.outcome? r = .ok (r', told)) : r'.IsConsistent := by
  cases op with
  | addService s => exact h.addService hok
  | removeService hostname => exact h.removeService hok
  | addInstance hostname spec =>
    obtain ⟨⟨i, r'', told'⟩, hadd, heq⟩ := exists_of_map_eq_ok hok
    obtain ⟨rfl, rfl⟩ := Prod.mk.inj heq
    exact h.addInstance hadd
  | removeInstance hostname address port => exact h.removeInstance hok
  | setManagementPorts address ports =>
    obtain ⟨rfl, -⟩ := Prod.mk.inj (Except.ok.inj hok)
    exact h.sublist (h.services.of_services rfl) (List.Sublist.refl _) fun _ _ hi => hi

end Memory

namespace Watched

variable {ω : Type}

theorem isConsistent_perform {w : Watched ω} (h : w.registry.IsConsistent) (op : Operation) :
    (w.perform op).2.registry.IsConsistent := by
  rcases w.perform_cases op with ⟨e, -, hfail⟩ | ⟨r, told, hok, hdone⟩
  · rw [hfail]
    exact h
  · rw [hdone]
    exact h.outcome? hok

theorem isConsistent_after (handlers : Handlers ω) (world : ω) (ops : List Operation) :
    ((start handlers world).after ops).registry.IsConsistent :=
  List.foldlRecOn ops _ (motive := fun w : Watched ω => w.registry.IsConsistent)
    Memory.isConsistent_empty fun _ h op _ => isConsistent_perform h op

/-- After any operations, of which any may have failed, the registry is consistent, and one more
that fails leaves the registry and the world of its handlers as they are. -/
theorem consistent_and_unchanged_by_failures (handlers : Handlers ω) (world : ω)
    (ops : List Operation) :
    let w := (start handlers world).after ops
    w.registry.IsConsistent ∧ ∀ op e, (w.perform op).1 = .error e → (w.perform op).2 = w := by
  intro w
  refine ⟨isConsistent_after handlers world ops, ?_⟩
  intro op e hfails
  rcases w.perform_cases op with ⟨e', -, hfail⟩ | ⟨r, told, -, hdone⟩
  · rw [hfail]
  · rw [hdone] at hfails
    cases hfails

/-- A service with two ports, and one instance of it. -/
def reviews : Service :=
  ⟨"reviews.local", some "10.0.0.1", [⟨"http", 80, .http⟩, ⟨"grpc", 90, .grpc⟩], none⟩

def firstReview : InstanceSpec := ⟨"10.1.1.1", 9080, "http", .ofText "version=v1", none, none⟩

def reviewOperations : List Operation :=
  [.addService reviews, .addInstance "reviews.local" firstReview]

theorem unchanged_by_unknown_port :
    let w := (start Handlers.recording []).after reviewOperations
    let op := Operation.addInstance "reviews.local" { firstReview with portName := "tcp" }
    w.registry.instances.length = 1 ∧ w.world.length = 2 ∧
      (w.perform op).1.toOption = none ∧ (w.perform op).2 = w := by
  intro w op
  have hfails : (w.perform op).1.toOption = none := by decide +kernel
  refine ⟨by decide +kernel, by decide +kernel, hfails, ?_⟩
  cases hresult : (w.perform op).1 with
  | ok _ =>
    rw [hresult] at hfails
    cases hfails
  | error e =>
    exact (consistent_and_unchanged_by_failures .recording [] reviewOperations).2 op e hresult

end Watched

end Registry

end MeshControl
