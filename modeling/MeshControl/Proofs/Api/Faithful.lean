import Mathlib.Data.List.Induction
import MeshControl.Proofs.Api.Requests

/-!
Requests show the store as it is. A request that fails, that reads or that is not answered changes
nothing that can be read; a record that was written reads back as it was answered, under a revision
that no request was answered with before; one that was deleted is gone. Revisions repeat only when
the counter of 64 bits has run over.
-/
namespace MeshControl.Api

open Config

/-- A request that wrote a record and was answered with it. -/
structure Wrote (m : Memory) (q : Request) (r : Record) : Prop where
  path : q.IsAt r.type r.key
  answer : q.method = "POST" ∧ (q.handle m).1 = some (.json 201 (storedJson r)) ∨
    q.method = "PUT" ∧ (q.handle m).1 = some (.json 200 (storedJson r))
  held : (q.handle m).2.get r.type r.key = some (r.content, r.revision)

/-- Whether an answer says that a record was written. -/
def Request.Accepted (q : Request) (answer : Option Http.Response) : Prop :=
  q.method = "POST" ∧ status? answer = some 201 ∨ q.method = "PUT" ∧ status? answer = some 200

/-- There is no answer, or it says that the request failed. -/
def Fails (answer : Option Http.Response) : Prop := ∀ response ∈ answer, 400 ≤ response.status

/-- The same path, asked for what stands there. -/
def Request.reread (q : Request) : Request := { q with method := "GET" }

/-- What can be read of a store stays as it is. -/
def SameReads (m m' : Memory) : Prop :=
  (∀ type key, m'.get type key = m.get type key) ∧ ∀ type, m'.list type = m.list type

theorem Admits.method {m : Memory} {q : Request} {type key : String} {status : Nat}
    (h : Admits m q type key status) :
    q.method = "POST" ∧ status = 201 ∨ q.method = "PUT" ∧ status = 200 := by
  cases h with
  | created hmethod => exact .inl ⟨hmethod, rfl⟩
  | replaced _ hmethod => exact .inr ⟨hmethod, rfl⟩

/-- An answer with the status of a write says that a record was written. -/
theorem Admits.accepted {m : Memory} {q : Request} {type key : String} {status : Nat}
    (h : Admits m q type key status) (j : Json) : q.Accepted (some (.json status j)) := by
  rcases h.method with ⟨hmethod, rfl⟩ | ⟨hmethod, rfl⟩
  · exact .inl ⟨hmethod, rfl⟩
  · exact .inr ⟨hmethod, rfl⟩

theorem Request.Accepted.isWrite {q : Request} {answer : Option Http.Response}
    (h : q.Accepted answer) : q.isWrite = true := by
  rcases h with ⟨hmethod, -⟩ | ⟨hmethod, -⟩ <;> simp [Request.isWrite, hmethod]

theorem fails_some {response : Http.Response} (h : 400 ≤ response.status) :
    Fails (some response) := by
  rintro _ ⟨⟩
  exact h

theorem not_fails_of_status? {answer : Option Http.Response} {status : Nat}
    (h : status? answer = some status) (hgood : status < 400) : ¬ Fails answer := by
  obtain ⟨response, hresponse, rfl⟩ := Option.map_eq_some_iff.mp h
  intro hfails
  exact absurd (hfails response hresponse) (Nat.not_le.mpr hgood)

theorem Request.Accepted.not_fails {q : Request} {answer : Option Http.Response}
    (h : q.Accepted answer) : ¬ Fails answer ∧ q.method ≠ "GET" ∧ q.method ≠ "DELETE" := by
  rcases h with ⟨hmethod, hstatus⟩ | ⟨hmethod, hstatus⟩
  · exact ⟨not_fails_of_status? hstatus (by decide), by simp [hmethod]⟩
  · exact ⟨not_fails_of_status? hstatus (by decide), by simp [hmethod]⟩

theorem Wrote.isWrite {m : Memory} {q : Request} {r : Record} (h : Wrote m q r) :
    q.isWrite = true := by
  rcases h.answer with ⟨hmethod, -⟩ | ⟨hmethod, -⟩ <;> simp [Request.isWrite, hmethod]

/-- What is held at a place is in the list of its type. -/
theorem mem_list_of_get {m : Memory} {r : Record}
    (h : m.get r.type r.key = some (r.content, r.revision)) : r ∈ m.list r.type := by
  obtain ⟨e, he, heq⟩ := Option.map_eq_some_iff.mp h
  obtain ⟨hcontent, hrevision⟩ := Prod.mk.inj heq
  refine List.mem_map.mpr ⟨(r.key, e), ((m.ofType r.type).mem_toList_iff r.key e).mpr he, ?_⟩
  simp only [hcontent, hrevision]

/-! ### One request -/

section

variable {m : Memory} (hsound : m.catalog.IsSound) (q : Request)

include hsound

theorem catalog_handle : (q.handle m).2.catalog = m.catalog := by
  have hcourse := course_handle hsound q
  generalize (q.handle m).1 = answer, (q.handle m).2 = m' at hcourse
  cases hcourse <;> rfl

/-- Only writes draw numbers, and each at most one. -/
theorem writes_handle : (q.handle m).2.writes = m.writes ∨
    q.isWrite = true ∧ (q.handle m).2.writes = m.writes + 1 := by
  have hcourse := course_handle hsound q
  generalize (q.handle m).1 = answer, (q.handle m).2 = m' at hcourse
  cases hcourse with
  | ended | refused | read | deleted => exact .inl rfl
  | drew answer hstatus hwrite => exact .inr ⟨hwrite, rfl⟩
  | wrote type key content status hpath hadmits =>
    exact .inr ⟨(hadmits.accepted (storedJson (written m type key content))).isWrite, rfl⟩

/-- A request that fails, that reads or that is not answered. -/
theorem sameReads_handle (h : Fails (q.handle m).1 ∨ q.method = "GET") :
    SameReads m (q.handle m).2 := by
  have hcourse := course_handle hsound q
  generalize (q.handle m).1 = answer, (q.handle m).2 = m' at hcourse h
  cases hcourse with
  | ended | refused | read | drew => exact ⟨fun _ _ => rfl, fun _ => rfl⟩
  | wrote type key content status hpath hadmits =>
    obtain ⟨hnot, hmethod, -⟩ :=
      (hadmits.accepted (storedJson (written m type key content))).not_fails
    exact absurd h (not_or.mpr ⟨hnot, hmethod⟩)
  | deleted type key hpath hmethod =>
    rcases h with hfails | hget
    · exact absurd hfails (not_fails_of_status? rfl (by decide))
    · exact absurd (hmethod.symm.trans hget) (by decide)

/-- A request that was accepted wrote one record. -/
theorem exists_written (h : q.Accepted (q.handle m).1) :
    ∃ type key content status, q.IsAt type key ∧ Admits m q type key status ∧
      (m.catalog.get? type).isSome = true ∧
      q.handle m = (some (.json status (storedJson (written m type key content))),
        m.draw.write type key ⟨content, Memory.revisionAt m.draw.writes⟩) := by
  have hcourse := course_handle hsound q
  obtain ⟨hnot, hget, hdelete⟩ := h.not_fails
  generalize hanswer : (q.handle m).1 = answer, hm : (q.handle m).2 = m' at hcourse hnot
  cases hcourse with
  | ended => exact absurd (fun _ hnone => nomatch hnone) hnot
  | refused _ hstatus => exact absurd (fails_some hstatus) hnot
  | drew _ hstatus => exact absurd (fails_some hstatus) hnot
  | read _ hmethod => exact absurd hmethod hget
  | deleted _ _ _ hmethod => exact absurd hmethod hdelete
  | wrote type key content status hpath hadmits hknown =>
    exact ⟨type, key, content, status, hpath, hadmits, hknown, Prod.ext hanswer hm⟩

theorem exists_wrote (h : q.Accepted (q.handle m).1) :
    ∃ r, Wrote m q r ∧ (m.catalog.get? r.type).isSome = true := by
  obtain ⟨type, key, content, status, hpath, hadmits, hknown, hhandle⟩ := exists_written hsound q h
  refine ⟨written m type key content, ⟨hpath, ?_, ?_⟩, hknown⟩
  · rw [hhandle]
    rcases hadmits.method with ⟨hmethod, rfl⟩ | ⟨hmethod, rfl⟩
    · exact .inl ⟨hmethod, rfl⟩
    · exact .inr ⟨hmethod, rfl⟩
  · rw [hhandle]
    simp [Memory.get, Memory.held?_write, written]

theorem exists_removed (hmethod : q.method = "DELETE")
    (hstatus : status? (q.handle m).1 = some 200) :
    ∃ type key, q.IsAt type key ∧ (m.catalog.get? type).isSome = true ∧
      (q.handle m).2 = m.remove type key := by
  have hcourse := course_handle hsound q
  have hnot := not_fails_of_status? hstatus (by decide)
  generalize (q.handle m).1 = answer, (q.handle m).2 = m' at hcourse hstatus hnot ⊢
  cases hcourse with
  | ended => cases hstatus
  | refused _ hbad => exact absurd (fails_some hbad) hnot
  | drew _ hbad => exact absurd (fails_some hbad) hnot
  | read _ hget => exact absurd (hmethod.symm.trans hget) (by decide)
  | wrote type key content status hpath hadmits =>
    rcases hadmits.method with ⟨hpost, -⟩ | ⟨hput, -⟩
    · exact absurd (hmethod.symm.trans hpost) (by decide)
    · exact absurd (hmethod.symm.trans hput) (by decide)
  | deleted type key hpath _ hknown => exact ⟨type, key, hpath, hknown, rfl⟩

/-- All that a request did that wrote a record. -/
theorem Wrote.admits {q : Request} {r : Record} (h : Wrote m q r) :
    (∃ status, Admits m q r.type r.key status) ∧
      r.revision = Memory.revisionAt m.draw.writes ∧
      (q.handle m).2 = m.draw.write r.type r.key ⟨r.content, r.revision⟩ := by
  have haccepted : q.Accepted (q.handle m).1 := by
    rcases h.answer with ⟨hmethod, hanswer⟩ | ⟨hmethod, hanswer⟩
    · exact .inl ⟨hmethod, by rw [hanswer]; rfl⟩
    · exact .inr ⟨hmethod, by rw [hanswer]; rfl⟩
  obtain ⟨type, key, content, status, hpath, hadmits, -, hhandle⟩ :=
    exists_written hsound q haccepted
  obtain ⟨htype, hkey⟩ : r.type = type ∧ r.key = key := by
    have hsame := h.path.symm.trans hpath
    simpa using hsame
  have hheld := h.held
  rw [hhandle, htype, hkey] at hheld
  obtain ⟨hcontent, hrevision⟩ :
      content = r.content ∧ Memory.revisionAt m.draw.writes = r.revision := by
    simpa [Memory.get, Memory.held?_write] using hheld
  rw [htype, hkey, ← hrevision, ← hcontent, hhandle]
  exact ⟨⟨status, hadmits⟩, rfl, rfl⟩

/-- A record that is held after a request was held before or was written by it. -/
theorem held?_handle {type key : String} {e : Entry}
    (h : (q.handle m).2.held? type key = some e) :
    m.held? type key = some e ∨ Wrote m q ⟨type, key, e.revision, e.content⟩ := by
  by_cases haccepted : q.Accepted (q.handle m).1
  · obtain ⟨r, hr, -⟩ := exists_wrote hsound q haccepted
    obtain ⟨-, -, hhandle⟩ := hr.admits hsound
    rw [hhandle, Memory.held?_write] at h
    split at h
    · next hplace =>
      obtain ⟨rfl, rfl⟩ := hplace
      obtain rfl := Option.some.inj h
      exact .inr hr
    · exact .inl h
  · have hcourse := course_handle hsound q
    generalize hanswer : (q.handle m).1 = answer, (q.handle m).2 = m' at hcourse h haccepted
    cases hcourse with
    | ended | refused | drew | read => exact .inl h
    | wrote type key content status hpath hadmits => exact absurd (hadmits.accepted _) haccepted
    | deleted type' key' =>
      rw [Memory.held?_remove] at h
      split at h
      · cases h
      · exact .inl h

end

/-! ### Runs -/

theorem catalog_after {m : Memory} (hsound : m.catalog.IsSound) (qs : List Request) :
    (Request.after m qs).catalog = m.catalog := by
  induction qs generalizing m with
  | nil => rfl
  | cons q qs ih =>
    have hnext := catalog_handle hsound q
    exact (ih (hnext ▸ hsound)).trans hnext

/-- The counter after some requests. -/
theorem writes_after {m : Memory} (hsound : m.catalog.IsSound) (qs : List Request) :
    ∃ n ≤ qs.countP Request.isWrite, (Request.after m qs).writes = m.writes + UInt64.ofNat n := by
  induction qs generalizing m with
  | nil => exact ⟨0, Nat.le_refl 0, by simp [Request.after]⟩
  | cons q qs ih =>
    have hnext := catalog_handle hsound q
    obtain ⟨n, hn, hwrites⟩ := ih (hnext ▸ hsound)
    have hafter : Request.after m (q :: qs) = Request.after (q.handle m).2 qs := rfl
    rw [hafter, hwrites, List.countP_cons]
    rcases writes_handle hsound q with hkept | ⟨hwrite, hdrew⟩
    · exact ⟨n, by omega, by rw [hkept]⟩
    · refine ⟨n + 1, by simp [hwrite, hn], ?_⟩
      rw [hdrew, UInt64.ofNat_add, UInt64.add_assoc, UInt64.add_comm 1]
      rfl

/-- A record that is held after some requests was there before or was written by one of them. -/
theorem held?_after {m : Memory} (hsound : m.catalog.IsSound) {qs : List Request}
    {type key : String} {e : Entry} (h : (Request.after m qs).held? type key = some e) :
    m.held? type key = some e ∨ ∃ before q between, qs = before ++ q :: between ∧
      Wrote (Request.after m before) q ⟨type, key, e.revision, e.content⟩ := by
  induction qs generalizing m with
  | nil => exact .inl h
  | cons q qs ih =>
    have hnext := catalog_handle hsound q
    rcases ih (hnext ▸ hsound) h with hheld | ⟨before, q', between, rfl, hwrote⟩
    · rcases held?_handle hsound q hheld with hold | hwrote
      · exact .inl hold
      · exact .inr ⟨[], q, qs, rfl, hwrote⟩
    · exact .inr ⟨q :: before, q', between, rfl, hwrote⟩

/-- Two writes return one revision only if the counter has run over between them. -/
theorem counter_runs_over {m : Memory} (hsound : m.catalog.IsSound) {q q' : Request}
    {between : List Request} {r r' : Record} (h : Wrote m q r)
    (h' : Wrote (Request.after (q.handle m).2 between) q' r') (hsame : r.revision = r'.revision) :
    UInt64.size ≤ between.countP Request.isWrite + 1 := by
  have hnext := catalog_handle hsound q
  have hsound' : (q.handle m).2.catalog.IsSound := hnext ▸ hsound
  obtain ⟨-, hrevision, hhandle⟩ := h.admits hsound
  obtain ⟨-, hrevision', -⟩ := h'.admits ((catalog_after hsound' between) ▸ hsound')
  obtain ⟨n, hn, hwrites⟩ := writes_after hsound' between
  rw [hrevision, hrevision'] at hsame
  have hnumbers : m.draw.writes.toNat = (Request.after (q.handle m).2 between).draw.writes.toNat :=
    Decimal.toString_nat_inj.mp hsame
  have hfirst : (q.handle m).2.writes = m.writes + 1 := by rw [hhandle]; rfl
  simp only [Memory.draw, hwrites, hfirst, UInt64.toNat_add, UInt64.toNat_ofNat',
    UInt64.reduceToNat] at hnumbers
  rw [UInt64.size]
  omega

/-! ### The configuration of the mesh -/

theorem isSound_catalog : Rule.catalog.IsSound := ⟨by decide, by decide⟩

namespace Request

/-- The store of the configuration of the mesh after some requests. -/
def run (qs : List Request) : Memory := after (Memory.new Rule.catalog) qs

theorem isSound_run (qs : List Request) : (run qs).catalog.IsSound := by
  have hnew : (Memory.new Rule.catalog).catalog.IsSound := isSound_catalog
  rw [run, catalog_after hnew]
  exact hnew

theorem run_append_cons (qs more : List Request) (q : Request) :
    run (qs ++ q :: more) = after (q.handle (run qs)).2 more :=
  List.foldl_append

/-- Every record was written by a request. -/
theorem exists_wrote_of_held? {qs : List Request} {type key : String} {e : Entry}
    (h : (run qs).held? type key = some e) :
    ∃ before q between, qs = before ++ q :: between ∧
      Wrote (run before) q ⟨type, key, e.revision, e.content⟩ := by
  have hnew : (Memory.new Rule.catalog).catalog.IsSound := isSound_catalog
  exact (held?_after hnew h).resolve_left (by simp)

/-- A replacement names the revision of the record that it replaces. -/
theorem exists_replaced {m : Memory} (hsound : m.catalog.IsSound) {q : Request}
    (hmethod : q.method = "PUT") (hstatus : status? (q.handle m).1 = some 200) :
    ∃ r current, Wrote m q r ∧ m.held? r.type r.key = some current ∧
      q.revision? = some current.revision := by
  obtain ⟨r, hr, -⟩ := exists_wrote hsound q (.inr ⟨hmethod, hstatus⟩)
  obtain ⟨⟨status, hadmits⟩, -⟩ := hr.admits hsound
  cases hadmits with
  | created hpost => exact absurd (hmethod.symm.trans hpost) (by decide)
  | replaced current _ hheld hnamed => exact ⟨r, current, hr, hheld, hnamed⟩

/-- A revision lets one replacement through, until the counter has run over. -/
theorem replaced_once {before between : List Request} {q q' : Request}
    (hput : q.method = "PUT") (hput' : q'.method = "PUT") (hpath : q.path = q'.path)
    (hrevision : q.revision? = q'.revision?)
    (hstatus : status? (q.handle (run before)).1 = some 200)
    (hstatus' : status? (q'.handle (run (before ++ q :: between))).1 = some 200) :
    UInt64.size ≤ (before ++ q :: between).countP isWrite := by
  obtain ⟨r, current, hr, hheld, hnamed⟩ := exists_replaced (isSound_run before) hput hstatus
  obtain ⟨r', current', hr', hheld', hnamed'⟩ := exists_replaced (isSound_run _) hput' hstatus'
  have hsame : current.revision = current'.revision := by
    rw [hrevision, hnamed'] at hnamed
    exact (Option.some.inj hnamed).symm
  obtain ⟨htype, hkey⟩ : r'.type = r.type ∧ r'.key = r.key := by
    have hat : q.IsAt r'.type r'.key := by
      rw [IsAt, hpath]
      exact hr'.path
    simpa using hat.symm.trans hr.path
  -- the revision that both name was returned before the first of them
  obtain ⟨early, w, late, rfl, hw⟩ := exists_wrote_of_held? hheld
  rw [htype, hkey, run_append_cons] at hheld'
  have hnext : (q.handle (run (early ++ w :: late))).2.catalog.IsSound := by
    rw [catalog_handle (isSound_run _)]
    exact isSound_run _
  have hwrite : q.isWrite = true := by simp [isWrite, hput]
  rcases held?_after hnext hheld' with hkept | ⟨since, v, rest, rfl, hv⟩
  · -- nothing was written there since the first, so it is the first that returned it again
    have hagain : r.revision = current'.revision := by
      have hget := hr.held
      rw [Memory.get, hkept] at hget
      exact (Prod.mk.inj (Option.some.inj hget)).2.symm
    rw [run_append_cons] at hr
    have hover := counter_runs_over (isSound_run early) hw hr (hsame.trans hagain.symm)
    simp only [List.countP_append, List.countP_cons, hwrite, if_true]
    omega
  · rw [run_append_cons] at hv
    have hlater : Wrote (after (w.handle (run early)).2 (late ++ q :: since)) v
        ⟨r.type, r.key, current'.revision, current'.content⟩ := by
      rw [after, List.foldl_append]
      exact hv
    have hover := counter_runs_over (isSound_run early) hw hlater hsame
    simp only [List.countP_append, List.countP_cons, hwrite, hv.isWrite, if_true] at hover ⊢
    omega

end Request

/-- Requests show the store as it is. One that fails, that reads or that is not answered changes
nothing that can be read. A record that was written is answered to a read of the same path with the
same text, is in the list of its type, and has a revision that no earlier write returned, unless the
counter of 64 bits has run over since. A record that was deleted is not found. Of the replacements
at a path that name one revision, one goes through, unless the counter has run over. -/
theorem requests_show_the_store (qs : List Request) (q : Request) :
    let m := Request.run qs
    let answer := (q.handle m).1
    let m' := (q.handle m).2
    (Fails answer ∨ q.method = "GET" → SameReads m m') ∧
      (q.Accepted answer → ∃ r, Wrote m q r ∧
        status? (q.reread.handle m').1 = some 200 ∧
        (q.reread.handle m').1.map (·.body) = answer.map (·.body) ∧
        r ∈ m'.list r.type ∧
        (∀ l : Request, l.method = "GET" → segments l.path = ["v1alpha1", "config", r.type] →
          (l.handle m').1 = some (.json 200 (.arr ((m'.list r.type).map storedJson)))) ∧
        ∀ before q₀ between r₀, qs = before ++ q₀ :: between →
          Wrote (Request.run before) q₀ r₀ →
          between.countP Request.isWrite + 1 < UInt64.size → r₀.revision ≠ r.revision) ∧
      (q.method = "DELETE" → status? answer = some 200 →
        status? (q.reread.handle m').1 = some 404) ∧
      ∀ before q₀ between, qs = before ++ q₀ :: between → q₀.method = "PUT" → q.method = "PUT" →
        q₀.path = q.path → q₀.revision? = q.revision? → qs.countP Request.isWrite < UInt64.size →
        ¬ (status? (q₀.handle (Request.run before)).1 = some 200 ∧ status? answer = some 200) := by
  intro m answer m'
  have hsound : m.catalog.IsSound := Request.isSound_run qs
  have hcatalog : m'.catalog = m.catalog := catalog_handle hsound q
  refine ⟨sameReads_handle hsound q, ?_, ?_, ?_⟩
  · intro haccepted
    obtain ⟨r, hr, hknown⟩ := exists_wrote hsound q haccepted
    rw [← hcatalog] at hknown
    have hread := handle_get_of_held (q := q.reread) hr.path rfl hknown hr.held
    have hbody : answer.map (·.body) = some (storedJson r).pretty := by
      rcases hr.answer with ⟨-, hanswer⟩ | ⟨-, hanswer⟩
      · exact congrArg (Option.map (·.body)) hanswer
      · exact congrArg (Option.map (·.body)) hanswer
    refine ⟨r, hr, by rw [hread]; rfl, by rw [hread, hbody]; rfl, mem_list_of_get hr.held, ?_, ?_⟩
    · intro l hmethod hpath
      rw [handle_list hpath hmethod hknown]
    · rintro before q₀ between r₀ rfl hwrote hroom hsame
      have hr' : Wrote (Request.after (q₀.handle (Request.run before)).2 between) q r :=
        Request.run_append_cons before between q₀ ▸ hr
      have hover := counter_runs_over (Request.isSound_run before) hwrote hr' hsame
      omega
  · intro hmethod hstatus
    obtain ⟨type, key, hpath, hknown, hremoved⟩ := exists_removed hsound q hmethod hstatus
    refine handle_get_of_absent (q := q.reread) hpath rfl (hcatalog ▸ hknown) ?_
    simp [m', hremoved, Memory.get, Memory.held?_remove]
  · rintro before q₀ between rfl hput hput' hpath hrevision hroom ⟨hstatus, hstatus'⟩
    have hover := Request.replaced_once hput hput' hpath hrevision hstatus hstatus'
    omega

/-! ### A policy that is created and replaced -/

def policyPath : String := "/v1alpha1/config/destination-policy/reviews.local"

def creation : Request :=
  ⟨"POST", policyPath, "\x7b\"spec\":\x7b\"destination\":\"reviews.local\"\x7d\x7d".toUTF8.toList⟩

/-- Names the revision of the creation. -/
def replacement : Request :=
  ⟨"PUT", policyPath,
    "\x7b\"revision\":\"1\",\"spec\":\x7b\"destination\":\"reviews.local\"\x7d\x7d".toUTF8.toList⟩

theorem replaced_policy_reads_back :
    status? (creation.handle (Request.run [])).1 = some 201 ∧
      status? (replacement.handle (Request.run [creation])).1 = some 200 ∧
      (replacement.reread.handle (replacement.handle (Request.run [creation])).2).1.map (·.body) =
        (replacement.handle (Request.run [creation])).1.map (·.body) ∧
      status? (replacement.handle (Request.run [creation, replacement])).1 = some 409 := by
  have hcreated : status? (creation.handle (Request.run [])).1 = some 201 := by decide +kernel
  have hreplaced : status? (replacement.handle (Request.run [creation])).1 = some 200 := by
    decide +kernel
  obtain ⟨-, hwritten, -⟩ := requests_show_the_store [creation] replacement
  obtain ⟨r, -, -, hbody, -⟩ := hwritten (.inr ⟨rfl, hreplaced⟩)
  exact ⟨hcreated, hreplaced, hbody, by decide +kernel⟩

end MeshControl.Api
