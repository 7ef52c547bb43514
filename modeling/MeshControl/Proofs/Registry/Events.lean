import Mathlib.Data.List.Induction
import Mathlib.Logic.Function.Basic
import MeshControl.Proofs.Registry.Consistency

/-!
What handlers are told is a complete log of a registry. Read from the start it gives the services
and the instances that are registered, each event fits what the log before it tells, and a service
is reported as gone only when all its instances have been.
-/
namespace MeshControl.Registry

/-! ### Reading a log -/

namespace Change

/-- The services that are registered after one more change. -/
def onServices (services : Table Service) : Change → Table Service
  | .service s .deleted => services.erase s.hostname
  | .service s _ => services.insert s.hostname s
  | .endpoint _ _ => services

/-- What stands at each site after one more change. -/
def onSites (sites : Site → Option Instance) : Change → Site → Option Instance
  | .service _ _ => sites
  | .endpoint i .deleted => Function.update sites i.site none
  | .endpoint i _ => Function.update sites i.site (some i)

/-- Whether a change can happen to the services and instances that were told of before. -/
def Fits (services : Table Service) (sites : Site → Option Instance) : Change → Prop
  | .service s .added => services.find? s.hostname = none
  | .service s .updated => (services.find? s.hostname).isSome
  | .service s .deleted => services.find? s.hostname = some s ∧
      ∀ site : Site, site.hostname = s.hostname → sites site = none
  | .endpoint i .added => (services.find? i.service.hostname).isSome
  | .endpoint _ .updated => False
  | .endpoint i .deleted => sites i.site = some i

end Change

/-- The services that a log tells of. -/
def servicesAfter (log : List Change) : Table Service := log.foldl Change.onServices Table.empty

/-- The instances that a log tells of, by their sites. -/
def sitesAfter (log : List Change) : Site → Option Instance :=
  log.foldl Change.onSites fun _ => none

/-- Every change fits what the log tells before it. -/
def IsOrderly (log : List Change) : Prop :=
  ∀ before c after, log = before ++ c :: after → c.Fits (servicesAfter before) (sitesAfter before)

theorem servicesAfter_append (log more : List Change) :
    servicesAfter (log ++ more) = more.foldl Change.onServices (servicesAfter log) :=
  List.foldl_append

theorem sitesAfter_append (log more : List Change) :
    sitesAfter (log ++ more) = more.foldl Change.onSites (sitesAfter log) :=
  List.foldl_append

theorem isOrderly_nil : IsOrderly [] := fun before c after h => by simp at h

theorem IsOrderly.concat {log : List Change} (h : IsOrderly log) {c : Change}
    (hc : c.Fits (servicesAfter log) (sitesAfter log)) : IsOrderly (log ++ [c]) := by
  intro before d after hsplit
  rcases List.eq_nil_or_concat after with rfl | ⟨rest, e, rfl⟩
  · obtain ⟨rfl, hd⟩ := List.append_inj' hsplit rfl
    obtain rfl := List.head_eq_of_cons_eq hd
    exact hc
  · have hlast : log ++ [c] = (before ++ d :: rest) ++ [e] := by simpa using hsplit
    exact h before d rest (List.append_inj_left' hlast rfl)

/-- A log is complete for a registry: it is orderly and tells of what is registered. -/
structure Memory.IsToldBy (r : Memory) (log : List Change) : Prop where
  orderly : IsOrderly log
  services : servicesAfter log = r.services
  sites : ∀ site i, sitesAfter log site = some i ↔ i ∈ r.instances ∧ i.site = site

namespace Memory

theorem isToldBy_empty : empty.IsToldBy [] where
  orderly := isOrderly_nil
  services := rfl
  sites := by simp [sitesAfter, empty]

/-! ### One operation -/

section

variable {r r' : Memory} {log told : List Change}

theorem IsToldBy.addService (h : r.IsToldBy log) {s : Service}
    (hok : r.addService s = .ok (r', told)) : r'.IsToldBy (log ++ told) := by
  unfold Memory.addService at hok
  split at hok
  · obtain ⟨rfl, rfl⟩ := Prod.mk.inj (Except.ok.inj hok)
    refine ⟨h.orderly.concat ?_, ?_, ?_⟩
    · cases hprior : r.services.find? s.hostname <;>
        simp [Table.contains, hprior, Change.Fits, h.services]
    · cases hprior : r.services.find? s.hostname <;>
        simp [servicesAfter_append, Table.contains, hprior, Change.onServices, h.services]
    · simpa [sitesAfter_append, Change.onSites] using h.sites
  · cases hok

/-- Instances are reported as gone one after the other. -/
theorem report_gone (horderly : IsOrderly log) {gone : List Instance}
    (hthere : ∀ i ∈ gone, sitesAfter log i.site = some i)
    (hapart : gone.Pairwise fun i j => i.site ≠ j.site) :
    let log' := log ++ gone.map (.endpoint · .deleted)
    IsOrderly log' ∧ servicesAfter log' = servicesAfter log ∧
      ∀ site, sitesAfter log' site =
        if site ∈ gone.map Instance.site then none else sitesAfter log site := by
  induction gone generalizing log with
  | nil => simpa using horderly
  | cons i gone ih =>
    obtain ⟨hhead, htail⟩ := List.pairwise_cons.mp hapart
    have hfits : Change.Fits (servicesAfter log) (sitesAfter log) (.endpoint i .deleted) :=
      hthere i List.mem_cons_self
    have hsites : sitesAfter (log ++ [.endpoint i .deleted]) =
        Function.update (sitesAfter log) i.site none := sitesAfter_append log _
    obtain ⟨hrest, hservices, hgone⟩ := ih (horderly.concat hfits) (by
      intro j hj
      rw [hsites, Function.update_of_ne (hhead j hj).symm]
      exact hthere j (List.mem_cons_of_mem _ hj)) htail
    rw [List.append_assoc] at hrest hservices hgone
    refine ⟨hrest, hservices.trans (servicesAfter_append log _), ?_⟩
    intro site
    rw [List.map_cons]
    refine (hgone site).trans ?_
    rw [hsites, List.map_cons, Function.update_apply]
    by_cases hsite : site = i.site <;> simp [hsite]

/-- Once the instances of a service are reported as gone, the log tells of the others. -/
theorem IsToldBy.report_gone (h : r.IsToldBy log) (hc : r.IsConsistent) (hostname : String) :
    let gone := r.instances.filter (·.service.hostname == hostname)
    let log' := log ++ gone.map (.endpoint · .deleted)
    IsOrderly log' ∧ servicesAfter log' = r.services ∧
      ∀ site i, sitesAfter log' site = some i ↔
        (i ∈ r.instances ∧ i.service.hostname ≠ hostname) ∧ i.site = site := by
  intro gone log'
  have hthere : ∀ i ∈ gone, sitesAfter log i.site = some i := fun i hi =>
    (h.sites i.site i).mpr ⟨(List.mem_filter.mp hi).1, rfl⟩
  obtain ⟨horderly, hservices, hsites⟩ :=
    Memory.report_gone h.orderly hthere (hc.apart.filter _)
  refine ⟨horderly, hservices.trans h.services, ?_⟩
  intro site i
  rw [hsites]
  split
  · next hin =>
    obtain ⟨j, hj, rfl⟩ := List.mem_map.mp hin
    have hname : j.service.hostname = hostname := beq_iff_eq.mp (List.mem_filter.mp hj).2
    simp only [reduceCtorEq, false_iff, not_and, and_imp]
    intro _ hne hsite
    exact hne ((congrArg Site.hostname hsite).trans hname)
  · next hout =>
    rw [h.sites site i]
    refine ⟨?_, fun ⟨⟨hi, _⟩, hsite⟩ => ⟨hi, hsite⟩⟩
    rintro ⟨hi, rfl⟩
    refine ⟨⟨hi, fun hname => hout ?_⟩, rfl⟩
    exact List.mem_map.mpr ⟨i, List.mem_filter.mpr ⟨hi, beq_iff_eq.mpr hname⟩, rfl⟩

theorem IsToldBy.removeService (h : r.IsToldBy log) (hc : r.IsConsistent) {hostname : String}
    (hok : r.removeService hostname = .ok (r', told)) : r'.IsToldBy (log ++ told) := by
  unfold Memory.removeService at hok
  split at hok
  · cases hok
  · next s hs =>
    obtain ⟨rfl, rfl⟩ := Prod.mk.inj (Except.ok.inj hok)
    obtain ⟨rfl, -⟩ := hc.services hostname s hs
    obtain ⟨horderly, hservices, hsites⟩ := h.report_gone hc s.hostname
    rw [← List.append_assoc]
    refine ⟨horderly.concat ⟨?_, ?_⟩, ?_, ?_⟩
    · rw [hservices]
      exact hs
    · intro site hsite
      refine Option.eq_none_iff_forall_ne_some.mpr fun i hi => ?_
      obtain ⟨⟨-, hne⟩, rfl⟩ := (hsites site i).mp hi
      exact hne hsite
    · rw [servicesAfter_append, hservices]
      rfl
    · intro site i
      rw [sitesAfter_append]
      simpa [Change.onSites] using hsites site i

/-- At most one instance stands at a site, so the first one is the only one. -/
theorem eraseP_isAt {instances : List Instance} {hostname address : String} {port : Nat}
    (hapart : instances.Pairwise fun i j => i.site ≠ j.site) :
    instances.eraseP (isAt hostname address port) =
      instances.filter (!isAt hostname address port ·) := by
  induction instances with
  | nil => rfl
  | cons i instances ih =>
    obtain ⟨hhead, htail⟩ := List.pairwise_cons.mp hapart
    cases hi : isAt hostname address port i with
    | false =>
      rw [List.eraseP_cons_of_neg (by simp [hi]), List.filter_cons_of_pos (by simp [hi]), ih htail]
    | true =>
      rw [List.eraseP_cons_of_pos hi, List.filter_cons_of_neg (by simp [hi])]
      refine (List.filter_eq_self.mpr fun j hj => ?_).symm
      rw [Bool.not_eq_true', ← Bool.not_eq_true, isAt_iff, ← isAt_iff.mp hi]
      exact (hhead j hj).symm

theorem IsToldBy.removeInstance (h : r.IsToldBy log) (hc : r.IsConsistent)
    {hostname address : String} {port : Nat}
    (hok : r.removeInstance hostname address port = .ok (r', told)) :
    r'.IsToldBy (log ++ told) := by
  unfold Memory.removeInstance at hok
  split at hok
  · cases hok
  · next i hi =>
    obtain ⟨rfl, rfl⟩ := Prod.mk.inj (Except.ok.inj hok)
    have hsite := isAt_iff.mp (List.find?_some hi)
    have hmem := List.mem_of_find?_eq_some hi
    refine ⟨h.orderly.concat ((h.sites i.site i).mpr ⟨hmem, rfl⟩), ?_, ?_⟩
    · rw [servicesAfter_append]
      exact h.services
    · intro site j
      rw [sitesAfter_append]
      simp only [List.foldl_cons, List.foldl_nil, Change.onSites, Function.update_apply]
      rw [eraseP_isAt hc.apart, List.mem_filter, Bool.not_eq_true', ← Bool.not_eq_true, isAt_iff,
        ← hsite]
      split
      · next hsame => simp [hsame]
      · next hne =>
        rw [h.sites site j]
        refine ⟨?_, fun ⟨⟨hj, _⟩, hat⟩ => ⟨hj, hat⟩⟩
        rintro ⟨hj, rfl⟩
        exact ⟨⟨hj, hne⟩, rfl⟩

theorem IsToldBy.addInstance (h : r.IsToldBy log) (hc : r.IsConsistent) {hostname : String}
    {spec : InstanceSpec} {i : Instance} (hok : r.addInstance hostname spec = .ok (i, r', told)) :
    r'.IsToldBy (log ++ told) := by
  obtain ⟨hresolve, rfl, rfl⟩ := instances_addInstance hok
  obtain ⟨s, p, hs, -, -, -, -, hi⟩ := resolve_eq_ok hresolve
  obtain ⟨rfl, -⟩ := hc.services hostname s hs
  refine ⟨h.orderly.concat ?_, ?_, ?_⟩
  · simp [Change.Fits, hi, h.services, hs]
  · rw [servicesAfter_append]
    exact h.services
  · intro site j
    rw [sitesAfter_append]
    simp only [List.foldl_cons, List.foldl_nil, Change.onSites, Function.update_apply]
    rw [mem_taking]
    split
    · next hsame =>
      subst hsame
      refine ⟨fun hj => ⟨.inr (Option.some.inj hj).symm, by rw [Option.some.inj hj]⟩, ?_⟩
      rintro ⟨⟨-, hne⟩ | rfl, hat⟩
      · exact absurd hat hne
      · rfl
    · next hne =>
      rw [h.sites site j]
      refine ⟨?_, ?_⟩
      · rintro ⟨hj, rfl⟩
        exact ⟨.inl ⟨hj, hne⟩, rfl⟩
      · rintro ⟨⟨hj, -⟩ | rfl, hat⟩
        · exact ⟨hj, hat⟩
        · exact absurd hat.symm hne

/-- What an operation tells, its log tells of the registry it leaves. -/
theorem IsToldBy.outcome? (h : r.IsToldBy log) (hc : r.IsConsistent) {op : Operation}
    (hok : op.outcome? r = .ok (r', told)) : r'.IsToldBy (log ++ told) := by
  cases op with
  | addService s => exact h.addService hok
  | removeService hostname => exact h.removeService hc hok
  | addInstance hostname spec =>
    obtain ⟨⟨i, r'', told'⟩, hadd, heq⟩ := exists_of_map_eq_ok hok
    obtain ⟨rfl, rfl⟩ := Prod.mk.inj heq
    exact h.addInstance hc hadd
  | removeInstance hostname address port => exact h.removeInstance hc hok
  | setManagementPorts address ports =>
    obtain ⟨rfl, rfl⟩ := Prod.mk.inj (Except.ok.inj hok)
    rw [List.append_nil]
    exact ⟨h.orderly, h.services, h.sites⟩

end

end Memory

/-! ### Runs -/

theorem Handlers.foldl_tell_recording (log told : List Change) :
    told.foldl recording.tell log = log ++ told := by
  induction told generalizing log with
  | nil => rw [List.foldl_nil, List.append_nil]
  | cons c told ih =>
    have htold : recording.tell log c = log ++ [c] := by cases c <;> rfl
    rw [List.foldl_cons, htold, ih, List.append_assoc, List.singleton_append]

namespace Watched

variable {ω : Type}

/-- The registry after some operations, with a log of what handlers were told. -/
def recorded (ops : List Operation) : Watched (List Change) := (start .recording []).after ops

theorem after_concat (w : Watched ω) (ops : List Operation) (op : Operation) :
    w.after (ops ++ [op]) = ((w.after ops).perform op).2 := by
  rw [after, List.foldl_append]
  rfl

theorem handlers_after (w : Watched ω) (ops : List Operation) :
    (w.after ops).handlers = w.handlers := by
  refine List.foldlRecOn ops _ (motive := fun v : Watched ω => v.handlers = w.handlers) rfl ?_
  intro v hv op _
  rcases v.perform_cases op with ⟨e, -, hsame⟩ | ⟨r, told, -, hmoved⟩
  · rw [hsame]
    exact hv
  · rw [hmoved]
    exact hv

/-- Whatever the handlers are, the registry is the same, and they are told what is in the log. -/
theorem after_eq_recorded (handlers : Handlers ω) (world : ω) (ops : List Operation) :
    (start handlers world).after ops =
      ⟨(recorded ops).registry, handlers, (recorded ops).world.foldl handlers.tell world⟩ := by
  induction ops using List.reverseRecOn with
  | nil => rfl
  | append_singleton ops op ih =>
    have hrecording : (recorded ops).handlers = .recording := handlers_after _ ops
    rw [recorded, after_concat, after_concat, ih, ← recorded]
    rcases (recorded ops).perform_cases op with ⟨e, hfail, hsame⟩ | ⟨r, told, hok, hmoved⟩
    · rw [perform_eq, hfail, hsame]
      rfl
    · rw [perform_eq, hok, hmoved]
      simp only [Except.map, settled, moved, hrecording, Handlers.foldl_tell_recording,
        List.foldl_append]

theorem isToldBy_recorded (ops : List Operation) :
    (recorded ops).registry.IsToldBy (recorded ops).world := by
  induction ops using List.reverseRecOn with
  | nil => exact Memory.isToldBy_empty
  | append_singleton ops op ih =>
    have hconsistent := isConsistent_after Handlers.recording [] ops
    rw [recorded, after_concat, ← recorded]
    rcases (recorded ops).perform_cases op with ⟨e, -, hsame⟩ | ⟨r, told, hok, hmoved⟩
    · rw [hsame]
      exact ih
    · rw [hmoved, moved, recorded, handlers_after, ← recorded, start,
        Handlers.foldl_tell_recording]
      exact ih.outcome? hconsistent hok

/-- Every set of handlers that is registered on an empty registry is told, over any operations, of
the same changes in the same order. Read back, these are the services and the instances that are
registered, and each change fits those before it: a service is added only if it was absent, updated
or deleted only if it was there, and deleted only after all its instances. -/
theorem events_replay_to_registry (handlers : Handlers ω) (world : ω) (ops : List Operation) :
    let w := (start handlers world).after ops
    let log := (recorded ops).world
    w.world = log.foldl handlers.tell world ∧
      servicesAfter log = w.registry.services ∧
      (∀ site i, sitesAfter log site = some i ↔ i ∈ w.registry.instances ∧ i.site = site) ∧
      (w.registry.instances.map Instance.site).Nodup ∧ IsOrderly log := by
  intro w log
  have hw : w = ⟨(recorded ops).registry, handlers, log.foldl handlers.tell world⟩ :=
    after_eq_recorded handlers world ops
  have htold := isToldBy_recorded ops
  have hconsistent : (recorded ops).registry.IsConsistent := isConsistent_after .recording [] ops
  rw [hw]
  exact ⟨rfl, htold.services, htold.sites, List.pairwise_map.mpr hconsistent.apart, htold.orderly⟩

/-- An instance that is replaced is added again, and goes before its service. -/
example : (recorded (reviewOperations ++ [.addService reviews,
    .addInstance "reviews.local" { firstReview with account := some "canary" },
    .removeService "ratings.local", .removeService "reviews.local"])).world.map Change.text =
    ["service reviews.local add", "instance reviews.local/10.1.1.1:9080 add",
      "service reviews.local update", "instance reviews.local/10.1.1.1:9080 add",
      "instance reviews.local/10.1.1.1:9080 delete", "service reviews.local delete"] := by
  decide +kernel

end Watched

end MeshControl.Registry
