import MeshControl.Config.Memory
import MeshControl.Proofs.Discovery.Traffic
import MeshControl.Registry.Memory

/-!
No stale answers. A clear moves the generation on, so a request that began before the clear is
not kept, and a request that began after it has read nothing older. Once every change has been
followed by a clear, whatever is kept is what the context gives.
-/
namespace MeshControl.Discovery

open Registry Config

variable {ρ σ : Type} [Directory ρ] [Store σ]

/-- The body that a path is answered with when nothing is kept and nothing changes meanwhile. -/
def Context.Gives (mesh : Mesh) (c : Context ρ σ) (path body : String) : Prop :=
  ∃ endpoint j, Endpoint.ofPath? path = some endpoint ∧ c.answer mesh endpoint = .ok j ∧
    j.pretty = body

/-- A request knows the number of clears that it began after. If no clear has followed and none is
owed, the context has not changed since, so it is all that the request has read. -/
structure Flight.Knows (f : Flight ρ σ) (context : Context ρ σ) (clears : Nat) (owed : Bool) :
    Prop where
  endpoint : Endpoint.ofPath? f.path = some f.endpoint
  begun : ∃ n ≤ clears, f.generation = UInt64.ofNat n ∧
    (n = clears → owed = false → ∀ c ∈ f.seen, c = context)

namespace Traffic

structure Coherent (mesh : Mesh) (t : Traffic ρ σ) : Prop where
  generation : t.service.cache.generation = UInt64.ofNat t.clears
  flights : ∀ f ∈ t.flights, f.Knows t.context t.clears t.owed
  current : t.owed = false → ∀ path body,
    t.service.cache.responses.find? path = some body → t.context.Gives mesh path body

variable {mesh : Mesh} {t : Traffic ρ σ} {f : Flight ρ σ}

theorem coherent_start (context : Context ρ σ) (caching : Bool) :
    (start context caching).Coherent mesh where
  generation := rfl
  flights f hf := absurd hf List.not_mem_nil
  current _ path body hbody := by
    change (Table.empty : Table String).find? path = some body at hbody
    rw [Table.find?_empty] at hbody
    cases hbody

theorem Coherent.change (ht : t.Coherent mesh) (context : Context ρ σ) :
    Coherent mesh { t with context, owed := true } where
  generation := ht.generation
  flights f hf := by
    obtain ⟨hendpoint, n, hn, hgeneration, -⟩ := ht.flights f hf
    exact ⟨hendpoint, n, hn, hgeneration, fun _ howed => by cases howed⟩
  current howed := by cases howed

/-- After a clear no request that is in flight can have begun at the generation. -/
theorem Coherent.clear (ht : t.Coherent mesh) : t.clear.Coherent mesh where
  generation := by
    change t.service.clear.cache.generation = UInt64.ofNat (t.clears + 1)
    rw [Service.generation_clear, ht.generation, UInt64.ofNat_add]
    rfl
  flights f hf := by
    obtain ⟨hendpoint, n, hn, hgeneration, -⟩ := ht.flights f hf
    refine ⟨hendpoint, n, Nat.le_succ_of_le hn, hgeneration, fun heq => ?_⟩
    exact absurd heq (Nat.ne_of_lt (Nat.lt_succ_of_le hn))
  current _ path body hbody := by
    change t.service.clear.cache.responses.find? path = some body at hbody
    rw [Service.responses_clear, Table.find?_empty] at hbody
    cases hbody

theorem Coherent.lookup (ht : t.Coherent mesh) {path : String} {endpoint : Endpoint}
    (hpath : Endpoint.ofPath? path = some endpoint) : (t.lookup path endpoint).Coherent mesh := by
  have hgeneration := t.service.generation_lookup path endpoint.label
  have hresponses := t.service.responses_lookup path endpoint.label
  have hcases := t.service.lookup_cases path endpoint.label
  rw [Traffic.lookup]
  cases hfound : t.service.lookup path endpoint.label with
  | mk found service =>
    rw [hfound] at hgeneration hresponses hcases
    have hcurrent : t.owed = false → ∀ path body,
        service.cache.responses.find? path = some body → t.context.Gives mesh path body := by
      simp only at hresponses
      rw [hresponses]
      exact ht.current
    cases found with
    | answer body => exact ⟨hgeneration.trans ht.generation, ht.flights, hcurrent⟩
    | pending generation =>
      refine ⟨hgeneration.trans ht.generation, fun f hf => ?_, hcurrent⟩
      rcases List.mem_cons.mp hf with rfl | hf
      · have hnow : generation = t.service.cache.generation := by
          rcases hcases with ⟨body, -, h⟩ | h
          · cases h
          · exact Found.pending.inj h
        refine ⟨hpath, t.clears, Nat.le_refl _, hnow.trans ht.generation, fun _ _ c hc => ?_⟩
        exact absurd hc List.not_mem_nil
      · exact ht.flights f hf

theorem Coherent.read (ht : t.Coherent mesh) {before after : List (Flight ρ σ)}
    (hflights : t.flights = before ++ f :: after) :
    Coherent mesh
      { t with flights := before ++ { f with seen := f.seen ++ [t.context] } :: after } where
  generation := ht.generation
  current := ht.current
  flights g hg := by
    have hknows := ht.flights
    rw [hflights] at hknows
    rcases List.mem_append.mp hg with hg | hg
    · exact hknows g (List.mem_append_left _ hg)
    rcases List.mem_cons.mp hg with rfl | hg
    · obtain ⟨hendpoint, n, hn, hgeneration, hseen⟩ :=
        hknows f (List.mem_append_right _ List.mem_cons_self)
      refine ⟨hendpoint, n, hn, hgeneration, fun heq howed c hc => ?_⟩
      rcases List.mem_append.mp hc with hc | hc
      · exact hseen heq howed c hc
      · exact List.mem_singleton.mp hc
    · exact hknows g (List.mem_append_right _ (List.mem_cons_of_mem _ hg))

/-- An answer that is kept began at the last clear, so the context that it read is the present
one. This is where the generation must not have come round. -/
theorem Coherent.record (ht : t.Coherent mesh) (hclears : t.clears < UInt64.size)
    {before after : List (Flight ρ σ)} (hflights : t.flights = before ++ f :: after)
    {result : Except RequestError Json} (hresult : f.Yields mesh result) :
    Coherent mesh { t with service := t.recorded f result, flights := before ++ after } where
  generation := (t.service.generation_record ..).trans ht.generation
  flights g hg := by
    refine ht.flights g ?_
    rw [hflights]
    rcases List.mem_append.mp hg with hg | hg
    · exact List.mem_append_left _ hg
    · exact List.mem_append_right _ (List.mem_cons_of_mem _ hg)
  current howed path body hbody := by
    rcases t.service.responses_record f.path f.endpoint.label f.generation result with
      hsame | ⟨j, rfl, hgeneration, hkept⟩
    · exact ht.current howed path body (hsame ▸ hbody)
    change (t.recorded f (.ok j)).cache.responses.find? path = some body at hbody
    rw [show (t.recorded f (.ok j)).cache.responses = _ from hkept, Table.find?_insert] at hbody
    split at hbody
    · next hpath =>
      obtain ⟨hendpoint, n, hn, hbegun, hseen⟩ :=
        ht.flights f (hflights ▸ List.mem_append_right _ List.mem_cons_self)
      have hlast : n = t.clears := by
        have heq : UInt64.ofNat n = UInt64.ofNat t.clears :=
          hbegun.symm.trans (hgeneration.symm.trans ht.generation)
        have hnat := congrArg UInt64.toNat heq
        rwa [UInt64.toNat_ofNat_of_lt' (Nat.lt_of_le_of_lt hn hclears),
          UInt64.toNat_ofNat_of_lt' hclears] at hnat
      have hanswer : t.context.answer mesh f.endpoint = .ok j :=
        (hresult t.context (hseen hlast howed)).symm
      exact ⟨f.endpoint, j, hpath ▸ hendpoint, hanswer, Option.some.inj hbody⟩
    · exact ht.current howed path body hbody

theorem Step.clears_le {t' : Traffic ρ σ} (h : Step mesh t t') : t.clears ≤ t'.clears := by
  cases h with
  | clear => exact Nat.le_succ _
  | lookup path endpoint =>
    rw [Traffic.lookup]
    split <;> exact Nat.le_refl _
  | change | read | record => exact Nat.le_refl _

theorem Coherent.step {t' : Traffic ρ σ} (ht : t.Coherent mesh) (hclears : t.clears < UInt64.size)
    (h : Step mesh t t') : t'.Coherent mesh := by
  cases h with
  | change context => exact ht.change context
  | clear => exact ht.clear
  | lookup path endpoint hpath => exact ht.lookup hpath
  | read before f after hflights => exact ht.read hflights
  | record before f after hflights result hresult => exact ht.record hclears hflights hresult

theorem Reachable.coherent (h : Reachable mesh t) (hclears : t.clears < UInt64.size) :
    t.Coherent mesh := by
  induction h with
  | start context caching => exact coherent_start context caching
  | step h hstep ih =>
    have hearlier := Nat.lt_of_le_of_lt hstep.clears_le hclears
    exact (ih hearlier).step hearlier hstep

end Traffic

namespace Service

/-- What a request is given says nothing about the cache. -/
theorem response_record (s s' : Service) (path label : String) (generation generation' : UInt64)
    (result : Except RequestError Json) :
    (s.record path label generation result).1 = (s'.record path label generation' result).1 := by
  cases result <;> rfl

/-- A path is answered as if nothing were kept, provided what is kept for it is right. -/
theorem handle_eq_of_current {s : Service} {mesh : Mesh} {registry : ρ} {store : σ}
    {method path : String} (hcounted : Endpoint.ofPath? path ≠ some .cacheStats)
    (hcurrent : ∀ body, s.cache.responses.find? path = some body →
      (Context.mk registry store).Gives mesh path body) :
    (s.handle mesh registry store method path).1 =
      ((Service.new false).handle mesh registry store method path).1 := by
  rw [handle, handle, handleWhile, handleWhile]
  split
  · rfl
  · next hadmission => exact absurd (ofPath?_of_admission hadmission) hcounted
  · next endpoint _ hadmission =>
    have hpath := ofPath?_of_admission hadmission
    have hcases := s.lookup_cases path endpoint.label
    cases hfound : s.lookup path endpoint.label with
    | mk found s' =>
      rw [hfound] at hcases
      have hnew :
          (Service.new false).lookup path endpoint.label = (.pending 0, Service.new false) := rfl
      rw [hnew]
      cases found with
      | pending generation => exact response_record ..
      | answer body =>
        rcases hcases with ⟨body', hbody, heq⟩ | heq
        · obtain ⟨endpoint', j, hpath', hanswer, hpretty⟩ := hcurrent body' hbody
          have hendpoint : endpoint' = endpoint := Option.some.inj (hpath'.symm.trans hpath)
          subst hendpoint
          change (respond mesh registry store endpoint').1 = .ok j at hanswer
          have hkept : body = j.pretty := (Found.answer.inj heq).trans hpretty.symm
          change jsonText body = ((Service.new false).record path endpoint'.label 0
            (respond mesh registry store endpoint').1).1
          rw [hanswer, hkept]
          rfl
        · cases heq

end Service

namespace Traffic

/-- Whatever changes, clears and requests have been mixed: once no clear is owed, every body that
is kept for a path is what the present context gives, so is every hit, and a request that is
handled in one go is answered as by a service that keeps nothing. -/
theorem answers_are_current {mesh : Mesh} {t : Traffic ρ σ} (h : Reachable mesh t)
    (hclears : t.clears < UInt64.size) (howed : t.owed = false) :
    (∀ path body, t.service.cache.responses.find? path = some body →
      t.context.Gives mesh path body) ∧
    (∀ path label body service, t.service.lookup path label = (.answer body, service) →
      t.context.Gives mesh path body) ∧
    ∀ method path, Endpoint.ofPath? path ≠ some .cacheStats →
      (t.service.handle mesh t.context.registry t.context.store method path).1 =
        ((Service.new false).handle mesh t.context.registry t.context.store method path).1 := by
  have hcurrent := (h.coherent hclears).current howed
  refine ⟨hcurrent, fun path label body service hhit => ?_, fun method path hcounted => ?_⟩
  · rcases t.service.lookup_cases path label with ⟨body', hbody, heq⟩ | heq
    · rw [hhit] at heq
      exact hcurrent path body (Found.answer.inj heq ▸ hbody)
    · rw [hhit] at heq
      cases heq
  · exact Service.handle_eq_of_current hcounted (hcurrent path)

/-- A registry that knows one host of the service `a`. -/
def oneHost : Registry.Memory :=
  ⟨Table.empty,
    [⟨⟨"10.0.0.1", 80, ⟨"", 80, .http⟩⟩, ⟨"a", none, [], none⟩, Tags.empty, none, none⟩],
    Table.empty⟩

/-- The host came up, and the cache was cleared, after a request for the hosts of `a` had read the
registry and before it recorded what it found. -/
def overtaken : Traffic Registry.Memory Config.Memory :=
  let context : Context Registry.Memory Config.Memory := ⟨.empty, .new []⟩
  let f : Flight Registry.Memory Config.Memory :=
    ⟨"/v1/registration/a", .registration "a", 0, [context]⟩
  let t : Traffic Registry.Memory Config.Memory :=
    Traffic.clear ⟨⟨oneHost, .new []⟩, .new true, [f], 0, true⟩
  { t with service := t.recorded f (context.answer .default (.registration "a")), flights := [] }

theorem reachable_overtaken : Reachable .default overtaken := by
  let context : Context Registry.Memory Config.Memory := ⟨.empty, .new []⟩
  have hstart : Reachable .default (start context true) := .start context true
  have hlookup := hstart.step (.lookup _ "/v1/registration/a" (.registration "a") rfl (by decide))
  have hread := hlookup.step (.read _ [] _ [] rfl)
  have hchange := hread.step (.change _ ⟨oneHost, .new []⟩)
  have hclear := hchange.step (.clear _)
  refine hclear.step (.record _ [] _ [] rfl _ fun c hc => ?_)
  rw [← hc _ List.mem_cons_self]

/-- The next request for the hosts of `a` is kept, and what is kept knows the host. -/
def asked : Traffic Registry.Memory Config.Memory :=
  { overtaken with
    service := (overtaken.service.handle .default oneHost (.new [] : Config.Memory) "GET"
      "/v1/registration/a").2.1 }

theorem answers_are_current_of_asked :
    overtaken.service.cache.responses.isEmpty ∧
    asked.service.cache.responses.keys = ["/v1/registration/a"] ∧
    ∀ path body, asked.service.cache.responses.find? path = some body →
      asked.context.Gives .default path body :=
  ⟨by decide, by decide,
    (answers_are_current (reachable_overtaken.handle "GET" "/v1/registration/a") (by decide)
      (by decide)).1⟩

end Traffic

end MeshControl.Discovery
