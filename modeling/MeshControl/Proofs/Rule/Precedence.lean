import MeshControl.Proofs.Config.Accepted
import MeshControl.Proofs.Sorting

/-!
The order of the rules that apply to a caller. Rules are sorted by precedence, and the sort is
stable, so rules of one precedence keep the order in which the store lists them: that of their
keys. No two rules of a store stand at the same place of this order.
-/
namespace MeshControl.Rule

open Config

/-- A rule comes before another by higher precedence, or by its key at the same precedence. -/
def Precedes (a b : RouteRule) : Prop :=
  b.precedence < a.precedence ∨ a.precedence = b.precedence ∧ Spec.key a < Spec.key b

/-- Sorting by precedence keeps whatever order there is among elements of one precedence. -/
theorem pairwise_byPrecedence {α : Type} {R : α → α → Prop} (precedence : α → Int) {l : List α}
    (h : l.Pairwise R) :
    (byPrecedence precedence l).Pairwise fun a b =>
      precedence b < precedence a ∨ precedence a = precedence b ∧ R a b := by
  have htrans : ∀ a b c : α, decide (precedence b ≤ precedence a) = true →
      decide (precedence c ≤ precedence b) = true →
        decide (precedence c ≤ precedence a) = true := by
    intro a b c hab hbc
    simp only [decide_eq_true_eq] at hab hbc ⊢
    omega
  have htotal : ∀ a b : α, (decide (precedence b ≤ precedence a) ||
      decide (precedence a ≤ precedence b)) = true := by
    intro a b
    simp only [Bool.or_eq_true, decide_eq_true_eq]
    omega
  refine (pairwise_mergeSort_stable htrans htotal h).imp ?_
  intro a b hab
  simp only [decide_eq_true_eq] at hab
  obtain ⟨hle, halike⟩ := hab
  rcases Int.lt_or_eq_of_le hle with hlt | heq
  · exact .inl hlt
  · exact .inr ⟨heq.symm, halike (Int.le_of_eq heq.symm)⟩

/-- Rules in the order of their keys are put into the order of precedence. -/
theorem pairwise_precedes_byPrecedence {rules : List RouteRule}
    (h : rules.Pairwise fun a b => Spec.key a < Spec.key b) :
    (byPrecedence RouteRule.precedence rules).Pairwise Precedes :=
  pairwise_byPrecedence RouteRule.precedence h

/-- The rules that apply to a caller come in the order of precedence. -/
theorem pairwise_precedes_fromSource {m : Memory} (hcatalog : m.catalog = catalog)
    (h : m.AllAccepted) (instances : List Instance) :
    (fromSource instances (routeRules m).1).Pairwise Precedes := by
  have htype : Schema.of RouteRule routeRuleType "route-rules" ∈ catalog := List.mem_cons_self
  exact pairwise_precedes_byPrecedence ((pairwise_key_listOf htype hcatalog h).filter _)

/-- A rule that applies to a caller is what the store holds under its key. -/
theorem held?_of_mem_fromSource {m : Memory} (hcatalog : m.catalog = catalog)
    (h : m.AllAccepted) {instances : List Instance} {rule : RouteRule}
    (hrule : rule ∈ fromSource instances (routeRules m).1) :
    ∃ e, m.held? routeRuleType (Spec.key rule) = some e ∧
      e.content.decode? RouteRule = some rule := by
  have htype : Schema.of RouteRule routeRuleType "route-rules" ∈ catalog := List.mem_cons_self
  have hmem : rule ∈ (routeRules m).1 := by
    rw [fromSource, byPrecedence, List.mem_mergeSort] at hrule
    exact List.mem_of_mem_filter hrule
  obtain ⟨key, e, he, hdecode⟩ := mem_listOf hmem
  rw [key_of_held? htype hcatalog h he hdecode]
  exact ⟨e, he, hdecode⟩

end MeshControl.Rule
