import MeshControl.Proofs.Discovery.Dependence

/-!
The cache under a control plane that runs. Operations on the registry, calls and changes to the
store, passes of the controller and requests come in any order. A request is answered as if nothing
were kept, except that handlers are not told of management ports: those that were set since the
cache was last cleared may not show.
-/
namespace MeshControl

open Config Registry

namespace Discovery

variable {ρ σ : Type} [Directory ρ] [Store σ]

/-! ### One request -/

namespace Service

@[simp] theorem clears_lookup (s : Service) (path label : String) :
    (s.lookup path label).2.metrics.clears = s.metrics.clears := by
  rw [lookup]
  split <;> rfl

@[simp] theorem clears_record (s : Service) (path label : String) (generation : UInt64)
    (result : Except RequestError Json) :
    (s.record path label generation result).2.metrics.clears = s.metrics.clears := by
  cases result with
  | error e =>
    simp only [record]
    split <;> rfl
  | ok j =>
    simp only [record, keep]
    split
    · split <;> rfl
    · rfl

variable (s : Service) (mesh : Mesh) (registry : ρ) (store : σ) (method path : String)

theorem clears_handle :
    (s.handle mesh registry store method path).2.1.metrics.clears = s.metrics.clears := by
  rw [handle, handleWhile]
  split
  · rfl
  · rfl
  · next endpoint _ _ =>
    have hlookup := s.clears_lookup path endpoint.label
    cases hfound : s.lookup path endpoint.label with
    | mk found s' =>
      rw [hfound] at hlookup
      cases found with
      | answer body => exact hlookup
      | pending generation => exact (s'.clears_record ..).trans hlookup

/-- A request keeps at most what its path is given. -/
theorem kept_handle {path' body : String}
    (h : (s.handle mesh registry store method path).2.1.cache.responses.find? path' = some body) :
    s.cache.responses.find? path' = some body ∨
      (Context.mk registry store).Gives mesh path' body := by
  rw [handle, handleWhile] at h
  split at h
  · exact .inl h
  · exact .inl h
  · next endpoint _ hadmission =>
    have hlookup := s.responses_lookup path endpoint.label
    cases hfound : s.lookup path endpoint.label with
    | mk found s' =>
      rw [hfound] at hlookup h
      cases found with
      | answer given => exact .inl (hlookup ▸ h)
      | pending generation =>
        rcases s'.responses_record path endpoint.label generation
          (respond mesh registry store endpoint).1 with hsame | ⟨j, hanswer, -, hkept⟩
        · exact .inl (hlookup ▸ hsame ▸ h)
        · have hinsert := hkept ▸ h
          rw [Table.find?_insert] at hinsert
          split at hinsert
          · next hpath =>
            have hendpoint := ofPath?_of_admission hadmission
            exact .inr ⟨endpoint, j, hpath ▸ hendpoint, hanswer, Option.some.inj hinsert⟩
          · exact .inl (hlookup ▸ hinsert)

/-- A request leaves a running controller as it was. -/
theorem front_handle {f : Front σ} (hlive : f.live = true) :
    (s.handle mesh registry f method path).2.2 = f := by
  rw [handle, handleWhile]
  split
  · rfl
  · rfl
  · next endpoint _ _ =>
    cases s.lookup path endpoint.label with
    | mk found s' =>
      cases found with
      | answer body => rfl
      | pending generation => exact respond_front mesh registry hlive endpoint

/-- A request is answered from scratch, or whatever its context, by what is kept for it. -/
theorem handle_cases (hcounted : Endpoint.ofPath? path ≠ some .cacheStats) :
    (s.handle mesh registry store method path).1 =
      ((Service.new false).handle mesh registry store method path).1 ∨
    ∃ body, s.cache.responses.find? path = some body ∧
      ∀ registry' : ρ, (s.handle mesh registry' store method path).1 =
        (s.handle mesh registry store method path).1 := by
  simp only [handle, handleWhile]
  cases hadmission : admission method path with
  | error response => exact .inl rfl
  | ok endpoint =>
    have hendpoint : endpoint ≠ .cacheStats := fun h =>
      hcounted (h ▸ ofPath?_of_admission hadmission)
    have hcases := s.lookup_cases path endpoint.label
    cases hfound : s.lookup path endpoint.label with
    | mk found s' =>
      rw [hfound] at hcases
      cases found with
      | answer given =>
        right
        rcases hcases with ⟨body, hbody, -⟩ | hpending
        · exact ⟨body, hbody, fun _ => by simp only [hfound]⟩
        · cases hpending
      | pending generation =>
        left
        simp only [hfound]
        exact response_record ..

end Service

end Discovery

open Discovery

/-! ### Runs -/

/-- What can happen to a control plane. -/
inductive ControlPlane.Step (σ : Type) where
  | operate (op : Operation)
  /-- A call through the controller. -/
  | call (call : Call)
  /-- Other hands leave the store in some state. -/
  | change (store : σ)
  | settle
  | advance (time : Nat)
  | request (method path : String)

namespace ControlPlane

variable {σ : Type}

theorem responses_clear_succ (p : ControlPlane Registry.Memory σ) (n : Nat) :
    (p.clear (n + 1)).service.cache.responses = Table.empty := by
  rw [clear, List.replicate_succ', List.foldl_append]
  rfl

variable [Store σ]

/-- A control plane whose controller has been started and has yet to make its first pass. -/
def begun (mesh : Mesh) (registry : Registry.Memory) (store : σ) (resync : Nat) :
    ControlPlane Registry.Memory σ :=
  ⟨mesh, registry, Front.new store resync watchedTypes true, .new true⟩

/-- Carries an operation out and tells handlers. One that fails changes nothing. -/
def operate (p : ControlPlane Registry.Memory σ) (op : Operation) :
    ControlPlane Registry.Memory σ :=
  match op.outcome? p.registry with
  | .ok (registry, changes) => { p with registry }.clear changes.length
  | .error _ => p

def step (p : ControlPlane Registry.Memory σ) : Step σ → ControlPlane Registry.Memory σ
  | .operate op => p.operate op
  | .call call => { p with front := (call.perform p.front).2 }
  | .change store => { p with front := p.front.setStore store }
  | .settle => p.settle
  | .advance time => p.advance time
  | .request method path => (p.discover (fun _ s => s) method path).2

def after (p : ControlPlane Registry.Memory σ) (steps : List (Step σ)) :
    ControlPlane Registry.Memory σ := steps.foldl step p

/-- All moments of a run, the first and the last among them. -/
def moments (p : ControlPlane Registry.Memory σ) (steps : List (Step σ)) :
    List (ControlPlane Registry.Memory σ) := steps.scanl step p

/-- How often the cache was cleared. -/
def clears (p : ControlPlane Registry.Memory σ) : Nat := p.service.metrics.clears

/-- What a request is answered. -/
def response (p : ControlPlane Registry.Memory σ) (method path : String) : Http.Response :=
  (p.discover (fun _ s => s) method path).1

/-- The control plane with a service that keeps nothing. -/
def uncached (p : ControlPlane Registry.Memory σ) : ControlPlane Registry.Memory σ :=
  { p with service := .new false }

/-- The control plane with the management ports of another. -/
def withPortsOf (p q : ControlPlane Registry.Memory σ) : ControlPlane Registry.Memory σ :=
  { p with registry := p.registry.withPortsOf q.registry }

/-- The management ports at the address of the sidecar that a path names. -/
def portsFor (p : ControlPlane Registry.Memory σ) (path : String) : Option (List Port) :=
  ((Endpoint.ofPath? path).bind (·.sidecar?)).bind p.registry.managementPorts.find?

/-- What a path is answered when nothing is kept. -/
def Gives (p : ControlPlane Registry.Memory σ) (path body : String) : Prop :=
  (Context.mk p.registry p.front).Gives p.mesh path body

variable {p q : ControlPlane Registry.Memory σ} {past : List (ControlPlane Registry.Memory σ)}

theorem after_concat (p : ControlPlane Registry.Memory σ) (steps : List (Step σ)) (s : Step σ) :
    p.after (steps ++ [s]) = (p.after steps).step s := List.foldl_append

theorem moments_concat (p : ControlPlane Registry.Memory σ) (steps : List (Step σ)) (s : Step σ) :
    p.moments (steps ++ [s]) = p.moments steps ++ [p.after (steps ++ [s])] := by
  rw [moments, List.scanl_append, after_concat, List.scanl_cons, List.tail_cons, List.scanl_nil]
  rfl

theorem after_mem_moments (p : ControlPlane Registry.Memory σ) (steps : List (Step σ)) :
    p.after steps ∈ p.moments steps := by
  rw [after, ← List.getLast_scanl List.scanl_ne_nil]
  exact List.getLast_mem _

/-! ### What is kept -/

/-- What is kept was given with the management ports of a moment since the cache was cleared. -/
structure Faithful (past : List (ControlPlane Registry.Memory σ))
    (p : ControlPlane Registry.Memory σ) : Prop where
  mirrors : p.front.Mirrors watchedTypes
  kept : ∀ path body, p.service.cache.responses.find? path = some body →
    ∃ q ∈ past, q.clears = p.clears ∧ (p.withPortsOf q).Gives path body

theorem faithful_begun (mesh : Mesh) (registry : Registry.Memory) (store : σ) (resync : Nat) :
    Faithful past (begun mesh registry store resync) where
  mirrors := Front.mirrors_new store resync watchedTypes
  kept path body hbody := by
    change (Table.empty : Table String).find? path = some body at hbody
    rw [Table.find?_empty] at hbody
    cases hbody

theorem Faithful.mono {past' : List (ControlPlane Registry.Memory σ)} (h : Faithful past p)
    (hpast : past ⊆ past') : Faithful past' p where
  mirrors := h.mirrors
  kept path body hbody := by
    obtain ⟨q, hq, hclears, hgives⟩ := h.kept path body hbody
    exact ⟨q, hpast hq, hclears, hgives⟩

/-- Whatever is done to the registry and to the store, handlers are told of all of it but of
management ports and of what does not show. -/
theorem Faithful.update (h : Faithful past p) {registry : Registry.Memory} {front : Front σ}
    {count : Nat} (hfront : p.front.Reports front count)
    (hregistry : count = 0 → ∀ q, registry.withPortsOf q = p.registry.withPortsOf q) :
    Faithful past ({ p with registry, front }.clear count) := by
  have hmirrors := hfront.mirrors h.mirrors
  -- If anyone was told, nothing is kept any more.
  cases count with
  | zero =>
    refine ⟨hmirrors, fun path body hbody => ?_⟩
    obtain ⟨q, hq, hclears, endpoint, j, hpath, hanswer, hpretty⟩ := h.kept path body hbody
    refine ⟨q, hq, hclears, endpoint, j, hpath, ?_, hpretty⟩
    have hlooks : Build.LooksLike front p.front :=
      ⟨hmirrors.live, h.mirrors.live, fun type htype =>
        hfront.controller.seen rfl type (h.mirrors.heard type htype)⟩
    have hsame := respond_front_congr p.mesh (p.registry.withPortsOf q.registry) hlooks endpoint
    change (respond p.mesh (registry.withPortsOf q.registry) front endpoint).1 = .ok j
    rw [hregistry rfl, hsame]
    exact hanswer
  | succ n =>
    refine ⟨hmirrors, fun path body hbody => ?_⟩
    rw [responses_clear_succ, Table.find?_empty] at hbody
    cases hbody

theorem Faithful.operate (h : Faithful past p) (op : Operation) :
    Faithful past (p.operate op) := by
  rw [ControlPlane.operate]
  split
  · next registry changes hok =>
    refine h.update ⟨rfl, ⟨rfl, fun _ _ _ => rfl⟩⟩ fun hnone q => ?_
    rw [List.eq_nil_of_length_eq_zero hnone] at hok
    exact Registry.Memory.withPortsOf_eq_of_outcome hok q
  · exact h

/-- What a request adds is given with the management ports of its own moment. -/
theorem Faithful.request (h : Faithful past p) (method path : String) :
    Faithful (past ++ [p.step (.request method path)]) (p.step (.request method path)) := by
  have hfront : (p.step (.request method path)).front = p.front :=
    p.service.front_handle p.mesh p.registry method path h.mirrors.live
  have hclears : (p.step (.request method path)).clears = p.clears :=
    p.service.clears_handle p.mesh p.registry p.front method path
  refine ⟨hfront ▸ h.mirrors, fun path' body hbody => ?_⟩
  rcases p.service.kept_handle p.mesh p.registry p.front method path hbody with hkept | hgives
  · obtain ⟨q, hq, hsince, hgives⟩ := h.kept path' body hkept
    refine ⟨q, List.mem_append_left _ hq, hsince.trans hclears.symm, ?_⟩
    rw [Gives] at hgives ⊢
    change (Context.mk (p.registry.withPortsOf q.registry)
      (p.step (.request method path)).front).Gives p.mesh path' body
    rw [hfront]
    exact hgives
  · refine ⟨_, List.mem_append_right _ List.mem_cons_self, rfl, ?_⟩
    change (Context.mk p.registry (p.step (.request method path)).front).Gives p.mesh path' body
    rw [hfront]
    exact hgives

theorem Faithful.step (h : Faithful past p) (s : Step σ) :
    Faithful (past ++ [p.step s]) (p.step s) := by
  cases s with
  | request method path => exact h.request method path
  | operate op => exact (h.operate op).mono (List.subset_append_left ..)
  | call call =>
    have hcall := h.update (Front.reports_perform h.mirrors.live call) fun _ _ => rfl
    exact hcall.mono (List.subset_append_left ..)
  | change store =>
    have hchange := h.update (p.front.reports_setStore store) fun _ _ => rfl
    exact hchange.mono (List.subset_append_left ..)
  | settle =>
    have hsettle := h.update p.front.reports_settle fun _ _ => rfl
    exact hsettle.mono (List.subset_append_left ..)
  | advance time =>
    have hadvance := h.update (p.front.reports_advance time) fun _ _ => rfl
    exact hadvance.mono (List.subset_append_left ..)

theorem faithful_after (mesh : Mesh) (registry : Registry.Memory) (store : σ) (resync : Nat)
    (steps : List (Step σ)) :
    Faithful ((begun mesh registry store resync).moments steps)
      ((begun mesh registry store resync).after steps) := by
  induction steps using List.reverseRecOn with
  | nil => exact faithful_begun mesh registry store resync
  | append_singleton steps s ih =>
    rw [moments_concat, after_concat]
    exact ih.step s

/-! ### What is answered -/

/-- A request is answered as if nothing were kept and the management ports were those of some moment
since the cache was last cleared. If those at the address of the sidecar that asks have not changed
since, it is answered as if nothing were kept. -/
theorem responses_hide_management_ports (mesh : Mesh) (registry : Registry.Memory) (store : σ)
    (resync : Nat) (steps : List (Step σ)) (method path : String)
    (hcounted : Endpoint.ofPath? path ≠ some .cacheStats) :
    let start := begun mesh registry store resync
    let p := start.after steps
    (∃ q ∈ start.moments steps, q.clears = p.clears ∧
      p.response method path = (p.withPortsOf q).uncached.response method path) ∧
    ((∀ q ∈ start.moments steps, q.clears = p.clears → q.portsFor path = p.portsFor path) →
      p.response method path = p.uncached.response method path) := by
  intro start p
  have hfaithful : Faithful (start.moments steps) p :=
    faithful_after mesh registry store resync steps
  refine ⟨?_, fun hports => ?_⟩
  · rcases p.service.handle_cases p.mesh p.registry p.front method path hcounted with
      hfresh | ⟨body, hbody, hany⟩
    · exact ⟨p, start.after_mem_moments steps, rfl, hfresh⟩
    · obtain ⟨q, hq, hclears, hgives⟩ := hfaithful.kept path body hbody
      refine ⟨q, hq, hclears, (hany (p.registry.withPortsOf q.registry)).symm.trans ?_⟩
      refine Service.handle_eq_of_current hcounted fun body' hbody' => ?_
      rw [← Option.some.inj (hbody.symm.trans hbody')]
      exact hgives
  · refine Service.handle_eq_of_current hcounted fun body hbody => ?_
    obtain ⟨q, hq, hclears, endpoint, j, hpath, hanswer, hpretty⟩ :=
      hfaithful.kept path body hbody
    refine ⟨endpoint, j, hpath, ?_, hpretty⟩
    have hsame : ∀ address, endpoint.sidecar? = some address →
        q.registry.managementPorts.find? address = p.registry.managementPorts.find? address := by
      intro address haddress
      have hnow := hports q hq hclears
      rwa [portsFor, portsFor, hpath, Option.bind_some, haddress] at hnow
    exact (respond_withPortsOf p.mesh p.front hsame).symm.trans hanswer

/-- A control plane that knows no services. -/
def bare : ControlPlane Registry.Memory Config.Memory :=
  begun .default .empty (.new Rule.catalog) 60000

def listenersPath : String := "/v1/listeners/istio-proxy/10.1.1.1"

def checkPorts : Operation := .setManagementPorts "10.1.1.1" [⟨"health", 9000, .http⟩]

/-- The ports were set before the cache was cleared for the last time, so the answer that is kept
has a listener for them. -/
def portsFirst : List (Step Config.Memory) :=
  [.settle, .operate checkPorts, .operate (.addService ⟨"a", none, [⟨"http", 80, .http⟩], none⟩),
    .request "GET" listenersPath]

theorem responses_hide_management_ports_of_ports_first :
    (bare.after portsFirst).service.cache.responses.keys = [listenersPath] ∧
    (bare.after portsFirst).portsFor listenersPath = some [⟨"health", 9000, .http⟩] ∧
    (bare.after portsFirst).response "GET" listenersPath =
      (bare.after portsFirst).uncached.response "GET" listenersPath :=
  ⟨by decide +kernel, by decide +kernel,
    (responses_hide_management_ports .default .empty (.new Rule.catalog : Config.Memory) 60000
      portsFirst "GET" listenersPath (by decide)).2 (by decide +kernel)⟩

/-- The ports are set after a request, and the next one is answered without them. -/
theorem kept_listeners_lack_management_ports :
    let p := bare.after [.settle, .request "GET" listenersPath, .operate checkPorts]
    p.response "GET" listenersPath ≠ p.uncached.response "GET" listenersPath := by
  decide +kernel

end ControlPlane

end MeshControl
