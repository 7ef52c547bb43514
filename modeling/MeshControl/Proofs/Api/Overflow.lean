import MeshControl.Proofs.Api.Faithful
import MeshControl.Proofs.Api.Refusals
import MeshControl.Proofs.Build.Weights

/-!
Which requests end without a response. A write that comes as far as the store hands a message over
to it, and ends there if the check of the message comes to no end. All other requests are answered,
and so is a write for which something else stands in the way.
-/
namespace MeshControl.Api

open Config

/-! ### Answers -/

/-- There is a response for an outcome. -/
def IsAnswered (o : Outcome Memory) : Prop := (respond o).1.isSome = true

theorem isAnswered_error_iff {m : Memory} {e : ApiError} :
    IsAnswered (.error e, m) ↔ e.status.isSome = true := by
  unfold IsAnswered respond ApiError.response
  rw [Option.isSome_map]

theorem isAnswered_list (m : Memory) (type : String) : IsAnswered (list m type) := by
  unfold list knownType
  cases (Store.catalog m).get? type <;> rfl

theorem isAnswered_get (m : Memory) (type key : String) : IsAnswered (get m type key, m) := by
  unfold get knownType
  cases (Store.catalog m).get? type with
  | none => rfl
  | some schema =>
    simp only [bind, Except.bind]
    cases Store.get m type key <;> rfl

theorem isAnswered_delete (m : Memory) (type key : String) : IsAnswered (delete m type key) := by
  unfold delete knownType
  cases (Store.catalog m).get? type with
  | none => rfl
  | some schema =>
    change IsAnswered (stored ((m.delete type key).1.map fun _ => .plain 200 ""),
      (m.delete type key).2)
    cases hwritable : (m.catalog.get? type).any (!·.internal) with
    | false => rw [Memory.delete_of_unwritable key hwritable]; rfl
    | true =>
      rw [Memory.delete_of_writable key hwritable]
      split <;> rfl

/-- A request that writes no record is answered. -/
theorem isAnswered_unwritten {m : Memory} {q : Request}
    (h : ∀ type key, q.IsAt type key → q.isWrite = false) :
    IsAnswered (route m q.method (segments q.path) q.octets) := by
  unfold route
  split
  · split <;> rfl
  · split
    · exact isAnswered_list m _
    · rfl
  · next type key hpath =>
    have hnot := h type key hpath
    unfold Request.isWrite at hnot
    rw [Bool.or_eq_false_iff, decide_eq_false_iff_not, decide_eq_false_iff_not] at hnot
    split
    · exact isAnswered_get m type key
    · next hmethod => exact absurd hmethod hnot.1
    · next hmethod => exact absurd hmethod hnot.2
    · exact isAnswered_delete m type key
    · rfl
  · rfl
  · rfl

/-! ### Messages that are handed over -/

/-- A request by which the store is asked to write a message. -/
structure Request.HandsOver (q : Request) (m : Memory) (content : Message) : Prop where
  isWrite : q.isWrite = true
  versioned : q.method = "POST" ∨ q.revision?.isSome = true
  message : ∃ type key b, q.IsAt type key ∧ Body.read q.octets = .ok b ∧
    message m type key b = .ok content

/-- The store makes something of a message if it is created or replaces a revision. -/
theorem handed_isSome_iff {m : Memory} {q : Request} {b : Body} {content : Message}
    (hbody : Body.read q.octets = .ok b) :
    (handed m q.method b content).isSome = true ↔
      q.method = "POST" ∨ q.revision?.isSome = true := by
  have hrevision : q.revision? = b.revision := by
    unfold Request.revision?
    rw [hbody]
    rfl
  unfold handed
  rw [hrevision]
  split
  · next hmethod => simp [hmethod]
  · next hmethod => simp [hmethod]

theorem handed_eq_overflow_iff {m m' : Memory} {method : String} {b : Body} {content : Message}
    {result : Except StoreError Revision} (h : handed m method b content = some (result, m')) :
    result = .error .overflow ↔ m.accept content = .error .overflow := by
  unfold handed at h
  split at h
  · obtain rfl : (m.post content).1 = result := congrArg Prod.fst (Option.some.inj h)
    exact Memory.post_eq_overflow_iff
  · obtain ⟨r, -, hput⟩ := Option.map_eq_some_iff.mp h
    obtain rfl : (m.put content r).1 = result := congrArg Prod.fst hput
    exact Memory.put_eq_overflow_iff

theorem handsOver_iff {m : Memory} {q : Request} {type key : String} {b : Body}
    {content : Message} (hpath : q.IsAt type key) (hwrite : q.isWrite = true)
    (hbody : Body.read q.octets = .ok b) :
    q.HandsOver m content ↔ message m type key b = .ok content ∧
      (handed m q.method b content).isSome = true := by
  rw [handed_isSome_iff hbody]
  constructor
  · rintro ⟨-, hversioned, type', key', b', hpath', hbody', hmessage⟩
    obtain ⟨rfl, rfl⟩ : type' = type ∧ key' = key := by
      have hsame := hpath'.symm.trans hpath
      simpa using hsame
    obtain rfl := Except.ok.inj (hbody'.symm.trans hbody)
    exact ⟨hmessage, hversioned⟩
  · rintro ⟨hmessage, hversioned⟩
    exact ⟨hwrite, hversioned, type, key, b, hpath, hbody, hmessage⟩

theorem status_eq_none_iff {e : StoreError} :
    (ApiError.store e).status = none ↔ e = .overflow := by
  cases e <;> simp [ApiError.status, ApiError.storeStatus, StoreError.kind]

/-- What the store makes of a message is answered unless it is an overflow. -/
theorem isAnswered_stored_iff {m : Memory} {result : Except StoreError Revision}
    {f : Revision → Http.Response} :
    IsAnswered (stored (result.map f), m) ↔ result ≠ .error .overflow := by
  cases result with
  | ok r => exact iff_of_true rfl (fun h => nomatch h)
  | error e =>
    change IsAnswered (.error (.store e), m) ↔ _
    rw [isAnswered_error_iff, Option.isSome_iff_ne_none, ne_eq, status_eq_none_iff, ne_eq,
      Except.error.injEq]

/-- A write is answered unless it hands over a message whose check overflows. -/
theorem isAnswered_write_iff {m : Memory} {q : Request} {type key : String}
    (hpath : q.IsAt type key) (hwrite : q.isWrite = true) :
    IsAnswered (route m q.method (segments q.path) q.octets) ↔
      ∀ content, q.HandsOver m content → m.accept content ≠ .error .overflow := by
  rw [route_write hpath hwrite]
  cases hbody : Body.read q.octets with
  | error e =>
    have hbad : IsAnswered (.error e, m) := by
      rw [isAnswered_error_iff, status_of_read hbody]
      rfl
    refine iff_of_true hbad ?_
    rintro content ⟨-, -, -, -, b, -, hread, -⟩
    cases hbody.symm.trans hread
  | ok b =>
    simp only [handsOver_iff hpath hwrite hbody]
    cases hmessage : message m type key b with
    | error e =>
      have hbad : IsAnswered (.error e, m) := by
        rw [isAnswered_error_iff, status_of_message hmessage]
        rfl
      exact iff_of_true hbad fun content h => nomatch h.1
    | ok content =>
      simp only [Except.ok.injEq, and_imp, forall_eq']
      cases hhanded : handed m q.method b content with
      | none => exact iff_of_true rfl fun h => nomatch h
      | some outcome =>
        obtain ⟨result, m'⟩ := outcome
        simp only [Option.isSome_some, forall_const]
        rw [isAnswered_stored_iff, ne_eq, handed_eq_overflow_iff hhanded]

/-- A request ends without a response if and only if it hands over a message whose check comes to
no end. -/
theorem handle_eq_none_iff {m : Memory} {q : Request} :
    (q.handle m).1 = none ↔
      ∃ content, q.HandsOver m content ∧ m.accept content = .error .overflow := by
  have hanswered : (q.handle m).1 = none ↔
      ¬ IsAnswered (route m q.method (segments q.path) q.octets) := by
    rw [handle_eq_respond, IsAnswered, Option.not_isSome_iff_eq_none]
  rw [hanswered]
  by_cases hwritten : ∃ type key, q.IsAt type key ∧ q.isWrite = true
  · obtain ⟨type, key, hpath, hwrite⟩ := hwritten
    rw [isAnswered_write_iff hpath hwrite]
    push Not
    rfl
  · have hunwritten : ∀ type key, q.IsAt type key → q.isWrite = false := by
      intro type key hpath
      rw [← Bool.not_eq_true]
      exact fun hwrite => hwritten ⟨type, key, hpath, hwrite⟩
    refine iff_of_false (fun h => h (isAnswered_unwritten hunwritten)) ?_
    rintro ⟨content, ⟨hwrite, -, type, key, -, hpath, -⟩, -⟩
    exact hwritten ⟨type, key, hpath, hwrite⟩

/-- A request that ends without a response leaves the store alone. -/
theorem handle_eq_self {m : Memory} (hsound : m.catalog.IsSound) {q : Request}
    (h : (q.handle m).1 = none) : (q.handle m).2 = m := by
  have hcourse := course_handle hsound q
  rw [h] at hcourse
  generalize (q.handle m).2 = m' at hcourse ⊢
  cases hcourse
  rfl

/-! ### The mesh -/

/-- Validation has a verdict on a rule exactly if the weights up to each destination sum up to a
number of 32 bits. For any other rule it overflows, and with it a store that is asked to write a
message with the rule; whatever was asked before, a request is not answered exactly if it hands such
a message over. The store is then what it was. -/
theorem survives_iff_verdict {m : Memory} (hcatalog : m.catalog = Rule.catalog) :
    (∀ r : RouteRule,
        ((∃ problems, r.validate = .ok problems) ↔ RouteRule.SumsFit r.routes) ∧
          (r.validate = .error ⟨⟩ ↔ ¬ RouteRule.SumsFit r.routes)) ∧
      (∀ r : IngressRule,
        ((∃ problems, r.validate = .ok problems) ↔ RouteRule.SumsFit r.rule.routes) ∧
          (r.validate = .error ⟨⟩ ↔ ¬ RouteRule.SumsFit r.rule.routes)) ∧
      (∀ content, ((m.post content).1 = .error .overflow ↔ ¬ Rule.HasVerdict content) ∧
        ((m.post content).1 = .error .overflow → (m.post content).2 = m)) ∧
      (∀ content r, ((m.put content r).1 = .error .overflow ↔ ¬ Rule.HasVerdict content) ∧
        ((m.put content r).1 = .error .overflow → (m.put content r).2 = m)) ∧
      ∀ (before : List Request) (q : Request), let now := Request.after m before
        ((q.handle now).1 = none ↔
            ∃ content, q.HandsOver now content ∧ ¬ Rule.HasVerdict content) ∧
          ((q.handle now).1 = none → (q.handle now).2 = now) := by
  refine ⟨fun r => ⟨r.validate_succeeds_iff, ?_⟩, fun r => ⟨r.validate_succeeds_iff, ?_⟩,
    fun content => ⟨?_, fun h => ?_⟩, fun content r => ⟨?_, fun h => ?_⟩,
    fun before q => ⟨?_, fun h => ?_⟩⟩
  · rw [Verdict.eq_error_iff, r.validate_succeeds_iff]
  · rw [Verdict.eq_error_iff, r.validate_succeeds_iff]
  · rw [Memory.post_eq_overflow_iff, Rule.accept_eq_overflow_iff hcatalog]
  · rw [Memory.post_of_refused (Memory.post_eq_overflow_iff.mp h)]
  · rw [Memory.put_eq_overflow_iff, Rule.accept_eq_overflow_iff hcatalog]
  · rw [Memory.put_of_refused (Memory.put_eq_overflow_iff.mp h)]
  · have hnow : (Request.after m before).catalog = Rule.catalog :=
      (catalog_after (hcatalog ▸ isSound_catalog) before).trans hcatalog
    simp only [handle_eq_none_iff, Rule.accept_eq_overflow_iff hnow]
  · have hnow : (Request.after m before).catalog = Rule.catalog :=
      (catalog_after (hcatalog ▸ isSound_catalog) before).trans hcatalog
    exact handle_eq_self (hnow ▸ isSound_catalog) h

/-- Two weights that are out of range and whose sum has more than 32 bits. -/
def heavyRule : RouteRule :=
  { name := "heavy", destination := "reviews.local", precedence := 0, condition := none
    routes := [⟨none, Tags.empty, 2147483647⟩, ⟨none, Tags.empty, 2147483647⟩]
    timeout := none, retries := none, requestFault := none, connectionFault := none }

/-- Asks to create the rule. -/
def heavyRequest : Request :=
  ⟨"POST", "/v1alpha1/config/route-rule/heavy", ("\x7b\"spec\":\x7b\"name\":\"heavy\"," ++
    "\"destination\":\"reviews.local\",\"route\":[\x7b\"weight\":2147483647\x7d," ++
    "\x7b\"weight\":2147483647\x7d]\x7d\x7d").toUTF8.toList⟩

/-- The rule is read, but there is no verdict on it, and no response to the request. -/
theorem heavyRule_overflows :
    ((Message.encode heavyRule).decode? RouteRule).map (·.routes) = some heavyRule.routes ∧
      heavyRule.validate = .error ⟨⟩ ∧
      (emptyStore.post (Message.encode heavyRule)).1 = .error .overflow ∧
      (heavyRequest.handle emptyStore).1.isNone = true :=
  ⟨by decide +kernel, by decide +kernel, by decide +kernel, by decide +kernel⟩

/-- The store survives a rule with shares of a hundred, and has no answer to the request. -/
theorem survives_unless_heavy : emptyStore.catalog = Rule.catalog ∧
    Rule.HasVerdict (Message.encode Build.canary) ∧
      ∃ content, heavyRequest.HandsOver emptyStore content ∧ ¬ Rule.HasVerdict content := by
  have hcatalog : emptyStore.catalog = Rule.catalog := rfl
  obtain ⟨-, -, hpost, -, hrequest⟩ := survives_iff_verdict hcatalog
  refine ⟨hcatalog, ?_, ?_⟩
  · by_contra hnone
    have hover := (hpost _).1.mpr hnone
    revert hover
    decide +kernel
  · exact (hrequest [] heavyRequest).1.mp (Option.isNone_iff_eq_none.mp (by decide +kernel))

end MeshControl.Api
