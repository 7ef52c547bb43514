import MeshControl.Discovery.Service

/-!
Requests in flight. A request looks its path up, then reads the registry and the store at any
number of moments, then records its answer; between these steps other requests may go on, the
context may change and the cache may be cleared. A request that is handled in one go is one way
of taking the steps.
-/
namespace MeshControl.Discovery

open Registry Config

variable {ρ σ : Type}

/-- What answers are computed from, next to the settings of the mesh. -/
structure Context (ρ σ : Type) where
  registry : ρ
  store : σ

/-- A request that was not answered from the cache, with the contexts that it has read so far. -/
structure Flight (ρ σ : Type) where
  path : String
  endpoint : Endpoint
  generation : UInt64
  seen : List (Context ρ σ)

structure Traffic (ρ σ : Type) where
  context : Context ρ σ
  service : Service
  flights : List (Flight ρ σ)
  /-- How often the cache was cleared. -/
  clears : Nat
  /-- Whether the context has changed since the last time. -/
  owed : Bool

namespace Traffic

def start (context : Context ρ σ) (caching : Bool) : Traffic ρ σ :=
  ⟨context, .new caching, [], 0, false⟩

def lookup (t : Traffic ρ σ) (path : String) (endpoint : Endpoint) : Traffic ρ σ :=
  match t.service.lookup path endpoint.label with
  | (.answer _, service) => { t with service }
  | (.pending generation, service) =>
    { t with service, flights := ⟨path, endpoint, generation, []⟩ :: t.flights }

def clear (t : Traffic ρ σ) : Traffic ρ σ :=
  { t with service := t.service.clear, clears := t.clears + 1, owed := false }

/-- The service after a request has recorded what came of it. -/
def recorded (t : Traffic ρ σ) (f : Flight ρ σ) (result : Except RequestError Json) : Service :=
  (t.service.record f.path f.endpoint.label f.generation result).2

end Traffic

variable [Directory ρ] [Store σ]

/-- What a request is answered in a context that does not change. -/
def Context.answer (mesh : Mesh) (c : Context ρ σ) (endpoint : Endpoint) :
    Except RequestError Json :=
  (respond mesh c.registry c.store endpoint).1

/-- What may come of a request. It knows the context from its reads alone, so if all of them saw
one context the result is the answer there; if they saw different ones it may be anything. -/
def Flight.Yields (mesh : Mesh) (f : Flight ρ σ) (result : Except RequestError Json) : Prop :=
  ∀ c, (∀ c' ∈ f.seen, c' = c) → result = c.answer mesh f.endpoint

namespace Traffic

inductive Step (mesh : Mesh) : Traffic ρ σ → Traffic ρ σ → Prop
  | change (t : Traffic ρ σ) (context : Context ρ σ) : Step mesh t { t with context, owed := true }
  | clear (t : Traffic ρ σ) : Step mesh t t.clear
  | lookup (t : Traffic ρ σ) (path : String) (endpoint : Endpoint)
      (hpath : Endpoint.ofPath? path = some endpoint) (hcached : endpoint ≠ .cacheStats) :
      Step mesh t (t.lookup path endpoint)
  | read (t : Traffic ρ σ) (before : List (Flight ρ σ)) (f : Flight ρ σ)
      (after : List (Flight ρ σ)) (hflights : t.flights = before ++ f :: after) :
      Step mesh t
        { t with flights := before ++ { f with seen := f.seen ++ [t.context] } :: after }
  | record (t : Traffic ρ σ) (before : List (Flight ρ σ)) (f : Flight ρ σ)
      (after : List (Flight ρ σ)) (hflights : t.flights = before ++ f :: after)
      (result : Except RequestError Json) (hresult : f.Yields mesh result) :
      Step mesh t { t with service := t.recorded f result, flights := before ++ after }

/-- What can come of a service that starts in some context. -/
inductive Reachable (mesh : Mesh) : Traffic ρ σ → Prop
  | start (context : Context ρ σ) (caching : Bool) : Reachable mesh (start context caching)
  | step {t t' : Traffic ρ σ} (h : Reachable mesh t) (hstep : Step mesh t t') : Reachable mesh t'

end Traffic

/-! ### What the steps do to the cache -/

namespace Service

theorem ofPath?_of_admission {method path : String} {endpoint : Endpoint}
    (h : admission method path = .ok endpoint) : Endpoint.ofPath? path = some endpoint := by
  rw [admission] at h
  split at h
  · cases h
  · split at h
    · next e he => rw [he, Except.ok.inj h]
    · cases h

@[simp] theorem responses_clear (s : Service) : s.clear.cache.responses = Table.empty := rfl

@[simp] theorem generation_clear (s : Service) :
    s.clear.cache.generation = s.cache.generation + 1 := rfl

/-- A path is answered by what is kept for it, and otherwise waits for its answer. -/
theorem lookup_cases (s : Service) (path label : String) :
    (∃ body, s.cache.responses.find? path = some body ∧
      (s.lookup path label).1 = .answer body) ∨
    (s.lookup path label).1 = .pending s.cache.generation := by
  rw [lookup]
  cases hcaching : s.caching with
  | false => exact .inr rfl
  | true =>
    cases hbody : s.cache.responses.find? path with
    | none => exact .inr rfl
    | some body => exact .inl ⟨body, rfl, rfl⟩

@[simp] theorem responses_lookup (s : Service) (path label : String) :
    (s.lookup path label).2.cache.responses = s.cache.responses := by
  rw [lookup]
  split <;> rfl

@[simp] theorem generation_lookup (s : Service) (path label : String) :
    (s.lookup path label).2.cache.generation = s.cache.generation := by
  rw [lookup]
  split <;> rfl

@[simp] theorem generation_record (s : Service) (path label : String) (generation : UInt64)
    (result : Except RequestError Json) :
    (s.record path label generation result).2.cache.generation = s.cache.generation := by
  cases result with
  | error e =>
    simp only [record]
    split <;> rfl
  | ok j =>
    simp only [record, keep]
    split
    · split <;> rfl
    · rfl

/-- A good answer is kept if the generation has not moved; nothing else is. -/
theorem responses_record (s : Service) (path label : String) (generation : UInt64)
    (result : Except RequestError Json) :
    (s.record path label generation result).2.cache.responses = s.cache.responses ∨
      ∃ j, result = .ok j ∧ s.cache.generation = generation ∧
        (s.record path label generation result).2.cache.responses =
          s.cache.responses.insert path j.pretty := by
  cases result with
  | error e =>
    left
    simp only [record]
    split <;> rfl
  | ok j =>
    simp only [record, keep]
    split
    · split
      · next hsame => exact .inr ⟨j, rfl, hsame, rfl⟩
      · exact .inl rfl
    · exact .inl rfl

end Service

namespace Traffic

variable {mesh : Mesh} {t : Traffic ρ σ}

/-- A request that is handled in one go takes the steps one after the other. What reading does to
the store is a change like any other. -/
theorem Reachable.handle (h : Reachable mesh t) (method path : String) :
    Reachable mesh
      { t with
        service :=
          (t.service.handle mesh t.context.registry t.context.store method path).2.1 } := by
  rw [Service.handle, Service.handleWhile]
  split
  · exact h
  · exact h
  · next endpoint hcached hadmission =>
    have hpath := Service.ofPath?_of_admission hadmission
    have hlookup := h.step (.lookup t path endpoint hpath hcached)
    rw [Traffic.lookup] at hlookup
    split
    · next body s hfound =>
      rw [hfound] at hlookup
      exact hlookup
    · next generation s hfound =>
      rw [hfound] at hlookup
      simp only at hlookup
      have hread := hlookup.step (.read _ [] _ t.flights rfl)
      have hresult : (⟨path, endpoint, generation, [t.context]⟩ : Flight ρ σ).Yields mesh
          (t.context.answer mesh endpoint) := by
        intro c hc
        rw [hc t.context (List.mem_singleton.mpr rfl)]
      exact hread.step (.record _ [] _ t.flights rfl _ hresult)

end Traffic

end MeshControl.Discovery
