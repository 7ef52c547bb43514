import MeshControl.Proofs.Build.Bystanders
import MeshControl.Proofs.Rule.Precedence

/-!
The rules for the callers that share an address. A rule that asks nothing of its source is for all
callers, and any other rule is for those among whom is the instance it asks for. These are the
rules that are selected, in the order of precedence and then of keys. Where there are no callers,
though, a rule with a condition is left out even if the condition is on headers alone.
-/
namespace MeshControl.Rule

open Config Build

/-- The rule has no condition, or one that names neither a service nor tags that callers have. -/
def AsksNoSource (r : RouteRule) : Prop :=
  ∀ m ∈ r.condition, m.source = none ∧ m.sourceTags.isEmpty = true

/-- One of the callers is the source that the rule asks for. -/
def FindsSource (callers : List Instance) (r : RouteRule) : Prop :=
  ∃ m ∈ r.condition, ∃ i ∈ callers, IsSourceOf m i

/-- What rules are for some callers. -/
def IsFor (callers : List Instance) (r : RouteRule) : Prop :=
  AsksNoSource r ∨ FindsSource callers r

instance (m : MatchCondition) (i : Instance) : Decidable (IsSourceOf m i) :=
  decidable_of_iff _ sourceMatches_iff

instance (r : RouteRule) : Decidable (AsksNoSource r) :=
  inferInstanceAs (Decidable (∀ m ∈ r.condition, _))

instance (callers : List Instance) (r : RouteRule) : Decidable (FindsSource callers r) :=
  inferInstanceAs (Decidable (∃ m ∈ r.condition, _))

instance (callers : List Instance) (r : RouteRule) : Decidable (IsFor callers r) :=
  inferInstanceAs (Decidable (_ ∨ _))

variable {callers : List Instance} {r : RouteRule}

theorem appliesFrom_iff :
    appliesFrom callers r = true ↔ r.condition = none ∨ FindsSource callers r := by
  rw [appliesFrom, FindsSource]
  cases r.condition with
  | none => simp
  | some m => simp [sourceMatches_iff]

/-- Every caller is a source that nothing is asked of. -/
theorem isSourceOf_of_empty {m : MatchCondition} (hsource : m.source = none)
    (htags : m.sourceTags.isEmpty = true) (i : Instance) : IsSourceOf m i where
  hostname h hh := by
    rw [hsource] at hh
    cases hh
  tags k v hk := by
    have hnone : m.sourceTags.toList = [] := List.isEmpty_iff.mp htags
    have hmem : (k, v) ∈ m.sourceTags.toList := (m.sourceTags.pairs.mem_toList_iff k v).mpr hk
    rw [hnone] at hmem
    cases hmem

theorem asksNoSource_of_no_condition (h : r.condition = none) : AsksNoSource r := by
  intro m hm
  rw [h] at hm
  cases hm

/-- A selected rule is always for the callers. -/
theorem isFor_of_appliesFrom (h : appliesFrom callers r = true) : IsFor callers r :=
  (appliesFrom_iff.mp h).imp asksNoSource_of_no_condition id

/-- A rule for some callers is selected, unless there is no caller to try its condition on. -/
theorem appliesFrom_iff_of_isFor (h : IsFor callers r) :
    appliesFrom callers r = true ↔ callers ≠ [] ∨ r.condition = none := by
  rw [appliesFrom_iff]
  constructor
  · rintro (hnone | ⟨m, -, i, hi, -⟩)
    · exact .inr hnone
    · exact .inl (List.ne_nil_of_mem hi)
  · rintro (hcallers | hnone)
    · rcases h with hasks | hfinds
      · cases hcondition : r.condition with
        | none => exact .inl rfl
        | some m =>
          obtain ⟨i, rest, rfl⟩ := List.exists_cons_of_ne_nil hcallers
          obtain ⟨hsource, htags⟩ := hasks m hcondition
          exact .inr ⟨m, hcondition, i, List.mem_cons_self, isSourceOf_of_empty hsource htags i⟩
      · exact .inr hfinds
    · exact .inl hnone

theorem perm_fromSource (callers : List Instance) (rules : List RouteRule) :
    (fromSource callers rules).Perm (rules.filter (appliesFrom callers)) :=
  List.mergeSort_perm _ _

/-- The rules that are selected are those for the callers, if there are callers or if no rule has
a condition that asks nothing of them. -/
theorem perm_fromSource_isFor_iff (callers : List Instance) (rules : List RouteRule) :
    (fromSource callers rules).Perm (rules.filter fun r => IsFor callers r) ↔
      callers ≠ [] ∨ ∀ r ∈ rules, AsksNoSource r → r.condition = none := by
  constructor
  · intro hperm
    by_cases hcallers : callers = []
    · refine .inr fun r hr hasks => ?_
      have hfor : IsFor callers r := .inl hasks
      have hmem : r ∈ rules.filter (appliesFrom callers) := by
        rw [← (perm_fromSource callers rules).mem_iff, hperm.mem_iff, List.mem_filter]
        exact ⟨hr, decide_eq_true hfor⟩
      have happlies := (appliesFrom_iff_of_isFor hfor).mp (List.mem_filter.mp hmem).2
      exact happlies.resolve_left fun hne => hne hcallers
    · exact .inl hcallers
  · intro h
    have hsame : rules.filter (appliesFrom callers) = rules.filter fun r => IsFor callers r := by
      apply List.filter_congr
      intro r hr
      rw [Bool.eq_iff_iff, decide_eq_true_eq]
      refine ⟨isFor_of_appliesFrom, fun hfor => (appliesFrom_iff_of_isFor hfor).mpr ?_⟩
      rcases h with hcallers | hrules
      · exact .inl hcallers
      · rcases hfor with hasks | ⟨m, -, i, hi, -⟩
        · exact .inr (hrules r hr hasks)
        · exact .inl (List.ne_nil_of_mem hi)
    exact hsame ▸ perm_fromSource callers rules

/-- From the rules of a store, sorted by key, those without a condition and those that find their
source among the callers are selected, sorted by falling precedence and then by key. These are the
rules for the callers, unless there is no caller and a rule with a condition that asks nothing of
its source. -/
theorem rules_selected_for_callers {σ : Type} [Store σ] {store : σ}
    (hsorted : (routeRules store).1.Pairwise fun a b => Spec.key a ≤ Spec.key b)
    (callers : List Instance) :
    let rules := (routeRules store).1
    let selected := fromSource callers rules
    selected.Pairwise (fun a b => b.precedence < a.precedence ∨
        a.precedence = b.precedence ∧ Spec.key a ≤ Spec.key b) ∧
      selected.Perm (rules.filter fun r => r.condition.isNone ∨ FindsSource callers r) ∧
      (selected.Perm (rules.filter fun r => IsFor callers r) ↔
        callers ≠ [] ∨ ∀ r ∈ rules, AsksNoSource r → r.condition = none) := by
  intro rules selected
  refine ⟨pairwise_byPrecedence RouteRule.precedence (hsorted.filter _), ?_,
    perm_fromSource_isFor_iff callers rules⟩
  have hsame : rules.filter (appliesFrom callers) =
      rules.filter fun r => r.condition.isNone ∨ FindsSource callers r := by
    apply List.filter_congr
    intro r _
    rw [Bool.eq_iff_iff, decide_eq_true_eq, appliesFrom_iff, Option.isNone_iff_eq_none]
  exact hsame ▸ perm_fromSource callers rules

/-! ### A rule with a condition on headers -/

/-- A rule for the requests of testers, wherever they come from. -/
def forTesters : Config.Message := ⟨"pilot.v1.RouteRule", .obj [
  ("destination", .str "reviews.local"),
  ("match", .obj [("httpHeaders", .obj [("x-tester", .obj [("exact", .str "yes")])])]),
  ("name", .str "for-testers"), ("precedence", .int 1)]⟩

def forTestersRule : RouteRule :=
  ⟨"for-testers", "reviews.local", 1,
    some ⟨none, Tags.empty, .ofList [("x-tester", .exactly "yes")]⟩, [], none, none, none, none⟩

def withTesters : Memory :=
  ((((((Memory.new catalog).post forOtherVersion).2).post forTesters).2).post forHttpbin).2

theorem routeRules_withTesters :
    (routeRules withTesters).1 = [forHttpbinRule, forOtherVersionRule, forTestersRule] := rfl

def fromProductpage : Instance :=
  ⟨⟨"10.1.1.1", 9080, ⟨"http", 9080, .http⟩⟩, productpage, Tags.empty, none, none⟩

/-- One caller is enough for a rule on headers, and not for a rule on a version. -/
theorem rules_selected_for_productpage :
    (routeRules withTesters).1.Pairwise (fun a b => Spec.key a ≤ Spec.key b) ∧
      (fromSource [fromProductpage] (routeRules withTesters).1).Perm
        [forHttpbinRule, forTestersRule] := by
  have hsorted : (routeRules withTesters).1.Pairwise fun a b => Spec.key a ≤ Spec.key b := by
    rw [routeRules_withTesters]
    decide
  obtain ⟨-, -, hfor⟩ := rules_selected_for_callers hsorted [fromProductpage]
  exact ⟨hsorted, hfor.mpr (.inl (List.cons_ne_nil _ _))⟩

/-- Without a caller the rule on headers is for all callers all the same, and is not selected. -/
theorem rule_on_headers_left_out :
    (routeRules withTesters).1.Pairwise (fun a b => Spec.key a ≤ Spec.key b) ∧
      IsFor [] forTestersRule ∧ forTestersRule ∈ (routeRules withTesters).1 ∧
      ¬ (fromSource [] (routeRules withTesters).1).Perm
        ((routeRules withTesters).1.filter fun r => IsFor [] r) := by
  refine ⟨?_, by decide, ?_, ?_⟩
  · rw [routeRules_withTesters]
    decide
  · rw [routeRules_withTesters]
    simp
  · rw [perm_fromSource_isFor_iff, routeRules_withTesters]
    rintro (hne | hnone)
    · exact hne rfl
    · have hasks : AsksNoSource forTestersRule := by decide
      have hcondition := hnone forTestersRule (by simp) hasks
      cases hcondition

end MeshControl.Rule
