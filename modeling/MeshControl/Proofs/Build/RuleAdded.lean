import MeshControl.Proofs.Build.Success
import MeshControl.Proofs.Config.Accepted

/-!
What one more route rule changes. The rules of a proxy grow by at most the new one, wherever they
are filtered, sorted and cut, so the new rule sends to targets of its own and every other target
was there before. Whether settings can still be built is thus up to the targets of the new rule.
-/
namespace MeshControl.Build

open Proxy Registry

/-! ### Lists with one more element -/

/-- The second list is the first, or has one more element at some place. -/
def Grown {α : Type} (a : α) (l l' : List α) : Prop :=
  l' = l ∨ ∃ before after, l = before ++ after ∧ l' = before ++ a :: after

namespace Grown

variable {α : Type} {a b : α} {l l' : List α}

theorem subset (h : Grown a l l') (hb : b ∈ l) : b ∈ l' := by
  rcases h with rfl | ⟨before, after, rfl, rfl⟩
  · exact hb
  · simp only [List.mem_append, List.mem_cons] at hb ⊢
    tauto

theorem filter (h : Grown a l l') (p : α → Bool) : Grown a (l.filter p) (l'.filter p) := by
  rcases h with rfl | ⟨before, after, rfl, rfl⟩
  · exact .inl rfl
  · rw [List.filter_append, List.filter_append, List.filter_cons]
    split
    · exact .inr ⟨_, _, rfl, rfl⟩
    · exact .inl rfl

theorem filter_of_neg (h : Grown a l l') {p : α → Bool} (hp : p a = false) :
    l'.filter p = l.filter p := by
  rcases h with rfl | ⟨before, after, rfl, rfl⟩
  · rfl
  · rw [List.filter_append, List.filter_append, List.filter_cons_of_neg (by simp [hp])]

theorem append_left (h : Grown a l l') (m : List α) : Grown a (m ++ l) (m ++ l') := by
  rcases h with rfl | ⟨before, after, rfl, rfl⟩
  · exact .inl rfl
  · exact .inr ⟨m ++ before, after, by simp, by simp⟩

theorem append_right (h : Grown a l l') (m : List α) : Grown a (l ++ m) (l' ++ m) := by
  rcases h with rfl | ⟨before, after, rfl, rfl⟩
  · exact .inl rfl
  · exact .inr ⟨before, after ++ m, by simp, by simp⟩

theorem find? (h : Grown a l l') (p : α → Bool) :
    l'.find? p = l.find? p ∨ l'.find? p = some a := by
  rcases h with rfl | ⟨before, after, rfl, rfl⟩
  · exact .inl rfl
  · rw [List.find?_append, List.find?_append, List.find?_cons]
    cases before.find? p with
    | some b => exact .inl rfl
    | none =>
      cases p a with
      | true => exact .inr rfl
      | false => exact .inl rfl

/-- What stands before the cut stood there before, but for the new element. -/
theorem mem_upTo (h : Grown a l l') {p : α → Bool} (hb : b ∈ upTo p l') :
    b = a ∨ b ∈ upTo p l := by
  rcases h with rfl | ⟨before, after, rfl, rfl⟩
  · exact .inr hb
  · induction before with
    | nil =>
      rw [List.nil_append, upTo] at hb
      split at hb
      · exact .inl (List.mem_singleton.mp hb)
      · exact List.mem_cons.mp hb
    | cons c before ih =>
      rw [List.cons_append, upTo] at hb ⊢
      split at hb
      · next hc =>
        rw [if_pos hc]
        exact .inr hb
      · next hc =>
        rw [if_neg hc]
        rcases List.mem_cons.mp hb with rfl | hrest
        · exact .inr List.mem_cons_self
        · exact (ih hrest).imp_right (List.mem_cons_of_mem _)

variable {le : α → α → Bool} (htrans : ∀ a b c, le a b → le b c → le a c)
  (htotal : ∀ a b, le a b || le b a)

include htrans htotal

/-- A stable sort puts the head behind all that come strictly before it. -/
theorem mergeSort_cons_eq (x : α) (l : List α) :
    (x :: l).mergeSort le =
      ((l.mergeSort le).filter fun y => !le x y) ++ x :: (l.mergeSort le).filter (le x) := by
  obtain ⟨l₁, l₂, hcons, hl, hfirst⟩ := List.mergeSort_cons htrans htotal x l
  have hsorted := List.pairwise_mergeSort htrans htotal (x :: l)
  rw [hcons] at hsorted
  have hlast : ∀ y ∈ l₂, le x y = true :=
    (List.pairwise_cons.mp (List.pairwise_append.mp hsorted).2.1).1
  have hfirst' : ∀ y ∈ l₁, le x y = false := fun y hy => by simpa using hfirst y hy
  rw [hcons, hl, List.filter_append, List.filter_append]
  rw [List.filter_eq_self.mpr hfirst, List.filter_eq_self.mpr hlast,
    List.filter_eq_nil_iff.mpr (by simpa using hlast),
    List.filter_eq_nil_iff.mpr (by simpa using hfirst')]
  simp

theorem mergeSort (h : Grown a l l') : Grown a (l.mergeSort le) (l'.mergeSort le) := by
  rcases h with rfl | ⟨before, after, rfl, rfl⟩
  · exact .inl rfl
  · induction before with
    | nil =>
      obtain ⟨l₁, l₂, hcons, hl, -⟩ := List.mergeSort_cons htrans htotal a after
      exact .inr ⟨l₁, l₂, hl, hcons⟩
    | cons x before ih =>
      rw [List.cons_append, List.cons_append, mergeSort_cons_eq htrans htotal,
        mergeSort_cons_eq htrans htotal]
      cases hle : le x a with
      | true =>
        rw [ih.filter_of_neg (by simp [hle])]
        exact ((ih.filter (le x)).append_left [x]).append_left _
      | false =>
        rw [ih.filter_of_neg hle]
        exact (ih.filter fun y => !le x y).append_right _

end Grown

theorem Grown.byPrecedence {α : Type} {a : α} {l l' : List α} (h : Grown a l l')
    (precedence : α → Int) :
    Grown a (Rule.byPrecedence precedence l) (Rule.byPrecedence precedence l') := by
  apply h.mergeSort
  · intro x y z hxy hyz
    simp only [decide_eq_true_eq] at hxy hyz ⊢
    omega
  · intro x y
    simp only [Bool.or_eq_true, decide_eq_true_eq]
    omega

/-! ### Targets with one more rule -/

variable {rule : RouteRule} {rules rules' : List RouteRule}

theorem Grown.rulesFor (h : Grown rule rules rules') (hostname : String) :
    Grown rule (rulesFor rules hostname) (rulesFor rules' hostname) :=
  (h.filter _).filter _

theorem Grown.mem_sidecarSenders (h : Grown rule rules rules') {services : List Service}
    {r : RouteRule} {p : Port} (hmem : (r, p) ∈ sidecarSenders services rules') :
    r = rule ∨ (r, p) ∈ sidecarSenders services rules := by
  obtain ⟨s, hs, hr⟩ := Build.mem_sidecarSenders.mp hmem
  rcases (h.rulesFor s.hostname).mem_upTo hr with hnew | hold
  · exact .inl hnew
  · exact .inr (Build.mem_sidecarSenders.mpr ⟨s, hs, hold⟩)

theorem Grown.mem_sidecarDefaults (h : Grown rule rules rules') {services : List Service}
    {t : Subset} (ht : t ∈ sidecarDefaults services rules') :
    t ∈ sidecarDefaults services rules := by
  rw [Build.mem_sidecarDefaults] at ht ⊢
  refine ht.imp_left ?_
  rintro ⟨s, p, hs, hall, rfl⟩
  refine ⟨s, p, hs, ?_, rfl⟩
  rw [List.any_eq_false] at hall ⊢
  exact fun r hr => hall r ((h.rulesFor s.hostname).subset hr)

/-- An ingress rule shows the route of the new rule or what it showed before. -/
theorem Grown.edgeSender? (h : Grown rule rules rules') {services : Table Service}
    {i : IngressRule} {r : RouteRule} {p : Port}
    (hsome : edgeSender? services rules' i = some (r, p)) :
    r = rule ∨ edgeSender? services rules i = some (r, p) := by
  obtain ⟨s, hs, hsome⟩ := Option.bind_eq_some_iff.mp hsome
  obtain ⟨q, hq, hsome⟩ := Option.bind_eq_some_iff.mp hsome
  obtain ⟨lender, hlender, heq⟩ := Option.map_eq_some_iff.mp hsome
  obtain ⟨rfl, rfl⟩ := Prod.mk.inj heq
  obtain ⟨path, hpath, hlender⟩ := Option.map_eq_some_iff.mp hlender
  rcases (h.rulesFor s.hostname).find?
    (asksFor path (headerMatches (ruleHeaders i.rule)) (authority i.rule)) with hsame | hnew
  · right
    rw [hsame] at hlender
    simp only [Build.edgeSender?, hs, hq, lender?, hpath, hlender, Option.bind_some,
      Option.map_some]
  · left
    rw [hnew] at hlender
    exact hlender.symm

theorem mem_senders_of_grown {registry : Registry.Memory} {store store' : Config.Memory}
    (h : Grown rule (Rule.routeRules store).1 (Rule.routeRules store').1)
    (hingress : (Rule.ingressRules store').1 = (Rule.ingressRules store).1) {node : Node}
    {r : RouteRule} {p : Port} (hmem : (r, p) ∈ senders registry store' node) :
    r = rule ∨ (r, p) ∈ senders registry store node := by
  rw [senders] at hmem ⊢
  generalize node.role = role at hmem ⊢
  cases role with
  | sidecar => exact ((h.filter _).byPrecedence _).mem_sidecarSenders hmem
  | ingress =>
    obtain ⟨i, hi, hsome⟩ := List.mem_filterMap.mp hmem
    rw [hingress] at hi
    refine (((h.filter _).byPrecedence _).edgeSender? hsome).imp_right fun hold => ?_
    exact List.mem_filterMap.mpr ⟨i, hi, hold⟩
  | egress => cases hmem

theorem mem_defaults_of_grown {registry : Registry.Memory} {store store' : Config.Memory}
    (h : Grown rule (Rule.routeRules store).1 (Rule.routeRules store').1) {node : Node}
    {t : Subset} (ht : t ∈ defaults registry store' node) : t ∈ defaults registry store node := by
  rw [defaults] at ht ⊢
  generalize node.role = role at ht ⊢
  cases role with
  | sidecar => exact ((h.filter _).byPrecedence _).mem_sidecarDefaults ht
  | ingress => cases ht
  | egress => cases ht

/-- Every target was there before or is one of the new rule. -/
theorem mem_targets_of_grown {registry : Registry.Memory} {store store' : Config.Memory}
    (h : Grown rule (Rule.routeRules store).1 (Rule.routeRules store').1)
    (hingress : (Rule.ingressRules store').1 = (Rule.ingressRules store).1) {node : Node}
    {t : Subset} (ht : t ∈ targets registry store' node) :
    t ∈ targets registry store node ∨
      ∃ p, (rule, p) ∈ senders registry store' node ∧ t ∈ ruleTargets rule p := by
  rw [targets, List.mem_append, mem_sentTo] at ht
  rw [targets, List.mem_append, mem_sentTo]
  rcases ht with ⟨r, p, hmem, hsent⟩ | hdefault
  · rcases mem_senders_of_grown h hingress hmem with rfl | hold
    · exact .inr ⟨p, hmem, hsent⟩
    · exact .inl (.inl ⟨r, p, hold, hsent⟩)
  · exact .inl (.inr (mem_defaults_of_grown h hdefault))

theorem storeChecked_of_accepted {store : Config.Memory} (hcatalog : store.catalog = Rule.catalog)
    (h : store.AllAccepted) : StoreChecked store where
  routes _ hrule :=
    RouteRule.validateBody_of_validate (Rule.validate_of_mem_routeRules hcatalog h hrule)
  ingress _ hr :=
    IngressRule.validateBody_of_validate (Rule.validate_of_mem_ingressRules hcatalog h hr)

/-- Settings that could be built before a rule was posted still can, if the targets of the rule
clash with none and have no name of a service behind the egress proxy. -/
theorem settings_grown_iff {registry : Registry.Memory} (hr : registry.IsSound) (mesh : Mesh)
    {store store' : Config.Memory} (hchecked : StoreChecked store)
    (hchecked' : StoreChecked store')
    (hgrown : Grown rule (Rule.routeRules store).1 (Rule.routeRules store').1)
    (hingress : (Rule.ingressRules store').1 = (Rule.ingressRules store).1) (node : Node)
    (hbefore : ∃ s, (settings mesh registry store node).1 = .ok s) :
    (∃ s, (settings mesh registry store' node).1 = .ok s) ↔
      ∀ p, (rule, p) ∈ senders registry store' node → ∀ s ∈ ruleTargets rule p,
        (∀ t ∈ targets registry store' node, ¬ s.Clashes t) ∧
          ∀ e ∈ escapesFrom mesh registry node, ¬ s.SharesName e := by
  obtain ⟨hclash, hshare, hagrees⟩ := (settings_succeed_iff hr mesh hchecked node).mp hbefore
  have hnew : ∀ t ∈ targets registry store' node, t ∈ targets registry store node ∨
      ∃ p, (rule, p) ∈ senders registry store' node ∧ t ∈ ruleTargets rule p :=
    fun t ht => mem_targets_of_grown hgrown hingress ht
  rw [settings_succeed_iff hr mesh hchecked' node]
  constructor
  · rintro ⟨hclash', hshare', -⟩ p hp s hs
    have hmem : s ∈ targets registry store' node :=
      List.mem_append_left _ (mem_sentTo.mpr ⟨rule, p, hp, hs⟩)
    exact ⟨hclash' s hmem, hshare' s hmem⟩
  · intro hrule
    refine ⟨?_, ?_, hagrees⟩
    · intro s hs t ht
      rcases hnew s hs with hs' | ⟨p, hp, hs'⟩
      · rcases hnew t ht with ht' | ⟨p, hp, ht'⟩
        · exact hclash s hs' t ht'
        · exact fun h => (hrule p hp t ht').1 s hs h.symm
      · exact (hrule p hp s hs').1 t ht
    · intro t ht e he
      rcases hnew t ht with ht' | ⟨p, hp, ht'⟩
      · exact hshare t ht' e he
      · exact (hrule p hp t ht').2 e he

/-- After a store accepts one more rule, settings that could be built still can, unless at a port
where the rule is in force one of its targets clashes with another, or has the name of a service
that the proxy reaches through the egress proxy. -/
theorem settings_after_post_iff (mesh : Mesh) (ops : List Operation) (calls : List Config.Call)
    (node : Node) {content : Config.Message} {rule : RouteRule} {r : Config.Revision}
    (hrule : content.decode? RouteRule = some rule)
    (hpost : ((Config.afterCalls (Config.Memory.new Rule.catalog) calls).post content).1 = .ok r)
    (hbefore : ∃ s, (settings mesh (Registry.Memory.afterOperations ops)
      (Config.afterCalls (Config.Memory.new Rule.catalog) calls) node).1 = .ok s) :
    let registry := Registry.Memory.afterOperations ops
    let store := ((Config.afterCalls (Config.Memory.new Rule.catalog) calls).post content).2
    (∃ s, (settings mesh registry store node).1 = .ok s) ↔
      ∀ p, (rule, p) ∈ senders registry store node → ∀ s ∈ ruleTargets rule p,
        (∀ t ∈ targets registry store node, ¬ s.Clashes t) ∧
          ∀ e ∈ escapesFrom mesh registry node, ¬ s.SharesName e := by
  intro registry store
  have hcatalog := Config.Memory.catalog_afterCalls (Config.Memory.new Rule.catalog) calls
  have hcatalog' := (Config.Memory.catalog_post _ content).trans hcatalog
  have haccepted := Config.Memory.allAccepted_afterCalls Rule.catalog calls
  obtain ⟨hjoined, hingress⟩ := Rule.rules_post hcatalog hrule hpost
  exact settings_grown_iff (Registry.Memory.isSound_afterOperations ops) mesh
    (storeChecked_of_accepted hcatalog haccepted)
    (storeChecked_of_accepted hcatalog' (haccepted.perform (.post content)))
    (.inr hjoined) hingress node hbefore

/-! ### A rule from one service to another -/

def toRatings : Config.Message := ⟨"pilot.v1.RouteRule", .obj [
  ("destination", .str "reviews.local"), ("name", .str "to-ratings"),
  ("route", .arr [.obj [("destination", .str "ratings.local"), ("weight", .int 100)]])]⟩

def toRatingsRule : RouteRule where
  name := "to-ratings"
  destination := "reviews.local"
  precedence := 0
  condition := none
  routes := [⟨some "ratings.local", Tags.empty, 100⟩]
  timeout := none
  retries := none
  requestFault := none
  connectionFault := none

/-- Two services with one port each, of one name; the number of the second is given. -/
def reviewsAndRatings (port : Nat) : List Operation := [
  .addService ⟨"reviews.local", none, [⟨"http", 80, .http⟩], none⟩,
  .addService ⟨"ratings.local", none, [⟨"http", port, .http⟩], none⟩]

def shop (port : Nat) : Registry.Memory := .afterOperations (reviewsAndRatings port)

def withToRatings : Config.Memory := ((Config.Memory.new Rule.catalog).post toRatings).2

def caller : Node := .ofSidecar (.v4 10 1 1 1)

theorem sidecarRules_withToRatings (port : Nat) :
    sidecarRules (shop port) withToRatings caller = [toRatingsRule] :=
  List.mergeSort_singleton _

theorem senders_withToRatings (port : Nat) :
    senders (shop port) withToRatings caller =
      sidecarSenders (shop port).services.values [toRatingsRule] := by
  rw [senders_of_sidecar _ _ rfl, sidecarRules_withToRatings]

theorem targets_withToRatings (port : Nat) :
    targets (shop port) withToRatings caller =
      sidecarTargets (shop port).services.values [toRatingsRule] := by
  rw [targets_of_sidecar _ _ rfl, sidecarRules_withToRatings]

theorem settings_shop (port : Nat) (h : Uniform (inboundPorts (shop port) caller.address.text)) :
    ∃ s, (settings default (shop port) (Config.Memory.new Rule.catalog) caller).1 = .ok s :=
  (settings_new_succeed_iff (Registry.Memory.isSound_afterOperations _) _ _ caller).mpr h

/-- With one number it is one port, and the rule can be followed. -/
theorem settings_after_post_of_one_number :
    toRatings.decode? RouteRule = some toRatingsRule ∧
      ((Config.Memory.new Rule.catalog).post toRatings).1 = .ok "1" ∧
      (∃ s, (settings default (shop 80) (Config.Memory.new Rule.catalog) caller).1 = .ok s) ∧
      ∃ s, (settings default (shop 80) withToRatings caller).1 = .ok s := by
  have hbefore := settings_shop 80 (by decide +kernel)
  have hfollowed : ∀ s ∈ sentTo (sidecarSenders (shop 80).services.values [toRatingsRule]),
      (∀ t ∈ sidecarTargets (shop 80).services.values [toRatingsRule], ¬ s.Clashes t) ∧
        ∀ e ∈ escapes default (shop 80).services.values, ¬ s.SharesName e := by
    decide +kernel
  refine ⟨rfl, rfl, hbefore, (settings_after_post_iff default (reviewsAndRatings 80) [] caller
    rfl rfl hbefore).mpr ?_⟩
  intro p hp s hs
  change (_, p) ∈ senders (shop 80) withToRatings caller at hp
  change (∀ t ∈ targets (shop 80) withToRatings caller, ¬ s.Clashes t) ∧ _
  rw [senders_withToRatings] at hp
  rw [targets_withToRatings]
  exact hfollowed s (mem_sentTo.mpr ⟨_, p, hp, hs⟩)

/-- With two numbers the rule asks for one port by the name of another. It is accepted all the
same, and the settings are lost. -/
theorem settings_after_post_of_two_numbers :
    (∃ s, (settings default (shop 9080) (Config.Memory.new Rule.catalog) caller).1 = .ok s) ∧
      ((Config.Memory.new Rule.catalog).post toRatings).1 = .ok "1" ∧
      ¬ ∃ s, (settings default (shop 9080) withToRatings caller).1 = .ok s := by
  refine ⟨settings_shop 9080 (by decide +kernel), rfl, ?_⟩
  have hchecked : StoreChecked withToRatings := storeChecked_of_accepted rfl
    (Config.Memory.allAccepted_afterCalls Rule.catalog [.post toRatings])
  have hclash : ¬ ∀ s ∈ sidecarTargets (shop 9080).services.values [toRatingsRule],
      ∀ t ∈ sidecarTargets (shop 9080).services.values [toRatingsRule], ¬ s.Clashes t := by
    decide +kernel
  intro hafter
  have hsound : (shop 9080).IsSound := Registry.Memory.isSound_afterOperations _
  have hall := (settings_succeed_iff hsound default hchecked caller).mp hafter
  rw [targets_withToRatings] at hall
  exact hclash hall.1

end MeshControl.Build
