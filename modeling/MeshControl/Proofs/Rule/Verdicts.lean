import Mathlib.Algebra.Ring.Int.Defs
import MeshControl.Proofs.Config.Accepted
import MeshControl.Proofs.Json.RoundTrip

/-!
Which rules validation has a verdict on. It goes on adding weights when it has found some of them
out of range, so the weights of a rule that was only read can leave the numbers of 32 bits on the
way. There is a verdict exactly if the weights up to each destination sum up to such a number.
Rules for the edge are validated by the same sum. A store in memory has no answer to a message that
holds a rule without a verdict, and one to every other.
-/
namespace MeshControl

open Decode

namespace RouteRule

/-! ### Sums in 32 bits -/

theorem checkedAdd_eq_ok {a b c : Int} : checkedAdd a b = .ok c ↔ a + b = c ∧ IsInt32 c := by
  unfold checkedAdd
  split
  · next hrange => exact ⟨fun h => Except.ok.inj h ▸ ⟨rfl, hrange⟩, fun h => congrArg _ h.1⟩
  · next hrange =>
    refine iff_of_false (fun h => nomatch h) ?_
    rintro ⟨rfl, hword⟩
    exact hrange hword

/-- A total that was reached without overflow is the true one. -/
theorem sum_of_foldlM_checkedAdd {ws : List Int} {start total : Int}
    (h : ws.foldlM checkedAdd start = .ok total) : start + ws.sum = total := by
  induction ws generalizing start with
  | nil =>
    obtain rfl : start = total := Except.ok.inj h
    rw [List.sum_nil, Int.add_zero]
  | cons w ws ih =>
    rw [List.foldlM_cons] at h
    cases hnext : checkedAdd start w with
    | error e =>
      rw [hnext] at h
      cases h
    | ok next =>
      rw [hnext] at h
      obtain ⟨rfl, -⟩ := checkedAdd_eq_ok.mp hnext
      rw [List.sum_cons, ← Int.add_assoc]
      exact ih h

/-- A total is reached if and only if every sum on the way to it has 32 bits. -/
theorem foldlM_checkedAdd_succeeds_iff {ws : List Int} {start : Int} (hstart : IsInt32 start) :
    (∃ total, ws.foldlM checkedAdd start = .ok total) ↔
      ∀ front, front <+: ws → IsInt32 (start + front.sum) := by
  induction ws generalizing start with
  | nil =>
    refine iff_of_true ⟨start, rfl⟩ ?_
    intro front hfront
    rw [List.prefix_nil.mp hfront, List.sum_nil, Int.add_zero]
    exact hstart
  | cons w ws ih =>
    rw [List.foldlM_cons]
    cases hsum : checkedAdd start w with
    | ok next =>
      obtain ⟨rfl, hnext⟩ := checkedAdd_eq_ok.mp hsum
      refine (ih hnext).trans ?_
      constructor
      · intro h front hfront
        rcases List.prefix_cons_iff.mp hfront with rfl | ⟨rest, rfl, hrest⟩
        · rw [List.sum_nil, Int.add_zero]
          exact hstart
        · rw [List.sum_cons, ← Int.add_assoc]
          exact h rest hrest
      · intro h front hfront
        have hwhole := h (w :: front) (List.cons_prefix_cons.mpr ⟨rfl, hfront⟩)
        rwa [List.sum_cons, ← Int.add_assoc] at hwhole
    | error e =>
      refine iff_of_false ?_ ?_
      · rintro ⟨total, htotal⟩
        cases htotal
      · intro h
        have hfirst := h [w] (List.cons_prefix_cons.mpr ⟨rfl, List.nil_prefix⟩)
        rw [List.sum_singleton] at hfirst
        cases hsum.symm.trans (checkedAdd_eq_ok.mpr ⟨rfl, hfirst⟩)

theorem sum_of_totalWeight {routes : List WeightedDestination} {total : Int}
    (h : totalWeight routes = .ok total) : (effectiveWeights routes).sum = total := by
  rw [← sum_of_foldlM_checkedAdd h, Int.zero_add]

/-! ### Rules -/

/-- The effective weights up to each destination sum up to a number of 32 bits. -/
def SumsFit (routes : List WeightedDestination) : Prop :=
  ∀ ws, ws <+: effectiveWeights routes → IsInt32 ws.sum

theorem totalWeight_succeeds_iff {routes : List WeightedDestination} :
    (∃ total, totalWeight routes = .ok total) ↔ SumsFit routes := by
  have hzero : IsInt32 0 := by decide
  unfold totalWeight SumsFit
  rw [foldlM_checkedAdd_succeeds_iff hzero]
  simp only [Int.zero_add]

theorem sumsFit_nil : SumsFit [] := totalWeight_succeeds_iff.mp ⟨0, rfl⟩

theorem validateRoutes_succeeds_iff {routes : List WeightedDestination} :
    (∃ problems, validateRoutes routes = .ok problems) ↔ SumsFit routes := by
  cases routes with
  | nil => exact iff_of_true ⟨[], rfl⟩ sumsFit_nil
  | cons w ws => exact map_succeeds_iff.trans totalWeight_succeeds_iff

/-- There is a verdict on a rule exactly if its sums fit, whatever else is found. -/
theorem validate_succeeds_iff (r : RouteRule) :
    (∃ problems, r.validate = .ok problems) ↔ SumsFit r.routes :=
  (map_succeeds_iff.trans map_succeeds_iff).trans validateRoutes_succeeds_iff

end RouteRule

theorem IngressRule.validate_succeeds_iff (r : IngressRule) :
    (∃ problems, r.validate = .ok problems) ↔ RouteRule.SumsFit r.rule.routes :=
  (map_succeeds_iff.trans map_succeeds_iff).trans RouteRule.validateRoutes_succeeds_iff

/-- A check overflows if it has no verdict. -/
theorem Verdict.eq_error_iff {v : Verdict} : v = .error ⟨⟩ ↔ ¬ ∃ problems, v = .ok problems := by
  cases v with
  | error e => exact iff_of_true rfl (fun ⟨_, h⟩ => nomatch h)
  | ok problems => exact iff_of_false (fun h => nomatch h) (fun h => h ⟨problems, rfl⟩)

/-! ### Messages -/

namespace Config

theorem Schema.validate_of_eq_error_iff {α : Type} [Spec α] {type plural : String}
    {content : Message} :
    (Schema.of α type plural).validate content = .error ⟨⟩ ↔
      ∃ a, content.decode? α = some a ∧ Spec.validate a = .error ⟨⟩ := by
  unfold Schema.validate Message.decode?
  split
  · next hname =>
    have hother : content.decode α = .error (mismatchText (Spec.messageName α) content.name) :=
      if_neg hname
    rw [hother]
    simp [Except.toOption]
  · simp only [Schema.of]
    cases content.decode α <;> simp [Except.toOption]

/-- The store comes to an overflow where the check of a message does that may be written. -/
theorem Memory.accept_eq_overflow_iff {m : Memory} {content : Message} :
    m.accept content = .error .overflow ↔
      ∃ s, m.catalog.byMessage? content.name = some s ∧ s.internal = false ∧
        s.validate content = .error ⟨⟩ := by
  unfold accept
  cases hs : m.catalog.byMessage? content.name with
  | none => simp
  | some schema =>
    simp only [Option.some.injEq, exists_eq_left']
    cases hinternal : schema.internal with
    | true => simp
    | false =>
      cases hverdict : schema.validate content with
      | error overflow => simp
      | ok problems =>
        cases problems with
        | cons p ps => simp
        | nil => cases hkey : schema.key content <;> simp

theorem Memory.post_eq_overflow_iff {m : Memory} {content : Message} :
    (m.post content).1 = .error .overflow ↔ m.accept content = .error .overflow := by
  cases haccept : m.accept content with
  | error e => rw [post_of_refused haccept]; simp
  | ok place =>
    rw [post_of_accepted haccept]
    split <;> simp

theorem Memory.put_eq_overflow_iff {m : Memory} {content : Message} {r : Revision} :
    (m.put content r).1 = .error .overflow ↔ m.accept content = .error .overflow := by
  cases haccept : m.accept content with
  | error e => rw [put_of_refused haccept]; simp
  | ok place =>
    cases hheld : m.held? place.1.type place.2 with
    | none => simp [put_of_absent haccept hheld]
    | some current =>
      rw [put_of_present haccept hheld]
      split <;> simp

end Config

namespace Rule

open Config

/-- Validation of the message comes to an end, whatever rule it holds. -/
structure HasVerdict (content : Message) : Prop where
  route : ∀ r, content.decode? RouteRule = some r → RouteRule.SumsFit r.routes
  ingress : ∀ r, content.decode? IngressRule = some r → RouteRule.SumsFit r.rule.routes

theorem not_hasVerdict_iff {content : Message} :
    ¬ HasVerdict content ↔
      (∃ r, content.decode? RouteRule = some r ∧ r.validate = .error ⟨⟩) ∨
        ∃ r, content.decode? IngressRule = some r ∧ r.validate = .error ⟨⟩ := by
  simp only [Verdict.eq_error_iff, RouteRule.validate_succeeds_iff,
    IngressRule.validate_succeeds_iff]
  constructor
  · intro hnot
    by_contra hnone
    push Not at hnone
    exact hnot ⟨hnone.1, hnone.2⟩
  · rintro (⟨r, hr, hsums⟩ | ⟨r, hr, hsums⟩) hverdict
    · exact hsums (hverdict.route r hr)
    · exact hsums (hverdict.ingress r hr)

/-- In the mesh a check comes to no end exactly for the messages without a verdict. -/
theorem accept_eq_overflow_iff {m : Memory} (hcatalog : m.catalog = catalog) {content : Message} :
    m.accept content = .error .overflow ↔ ¬ HasVerdict content := by
  rw [Memory.accept_eq_overflow_iff, hcatalog, not_hasVerdict_iff]
  constructor
  · rintro ⟨s, hs, -, hcheck⟩
    have hmem : s ∈ catalog := List.mem_of_find?_eq_some hs
    simp only [catalog, List.mem_cons, List.not_mem_nil, or_false] at hmem
    rcases hmem with rfl | rfl | rfl
    · exact .inl (Schema.validate_of_eq_error_iff.mp hcheck)
    · exact .inr (Schema.validate_of_eq_error_iff.mp hcheck)
    · obtain ⟨p, -, hp⟩ := Schema.validate_of_eq_error_iff.mp hcheck
      cases hp
  · rintro (⟨r, hr, hcheck⟩ | ⟨r, hr, hcheck⟩)
    · refine ⟨.of RouteRule routeRuleType "route-rules", ?_, rfl,
        Schema.validate_of_eq_error_iff.mpr ⟨r, hr, hcheck⟩⟩
      rw [name_of_decode? hr]
      rfl
    · refine ⟨.of IngressRule ingressRuleType "ingress-rules", ?_, rfl,
        Schema.validate_of_eq_error_iff.mpr ⟨r, hr, hcheck⟩⟩
      rw [name_of_decode? hr]
      rfl

end Rule

end MeshControl
