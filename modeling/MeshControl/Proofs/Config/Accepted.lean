import Mathlib.Data.List.Nodup
import MeshControl.Proofs.Config.Effects
import MeshControl.Rule.Selection

/-!
The rules that can be read from a store in memory. Every record was accepted when it was written,
so rules are checked, all can be read, and they come in the order of their keys; a rule that is
posted joins the others, whose order it leaves alone.
-/
namespace MeshControl

/-- A value under a new key joins the values of a sorted list. -/
theorem Entries.put_of_absent {α : Type} {k : String} (v : α) {l : List (String × α)}
    (h : find? k l = none) :
    ∃ before after, l = before ++ after ∧ put textLt k v l = before ++ (k, v) :: after := by
  induction l with
  | nil => exact ⟨[], [], rfl, rfl⟩
  | cons e l ih =>
    obtain ⟨k', v'⟩ := e
    rw [find?] at h
    split at h
    · cases h
    · next hne =>
      rw [put]
      split
      · exact ⟨[], (k', v') :: l, rfl, rfl⟩
      · obtain ⟨before, after, hl, hput⟩ := ih h
        rw [hput, hl]
        exact ⟨(k', v') :: before, after, rfl, rfl⟩

namespace Config

/-! ### Accepted records -/

namespace Memory

/-- Every record stands under the type and the key of its content, which may be written. -/
def AllAccepted (m : Memory) : Prop :=
  ∀ type key e, m.held? type key = some e →
    ∃ s, m.accept e.content = .ok (s, key) ∧ s.type = type

theorem accept_congr {m m' : Memory} (h : m'.catalog = m.catalog) (content : Message) :
    m'.accept content = m.accept content := by
  simp only [accept, h]

theorem AllAccepted.draw {m : Memory} (h : m.AllAccepted) : m.draw.AllAccepted := h

theorem AllAccepted.write {m : Memory} (h : m.AllAccepted) {content : Message} {s : Schema}
    {key : String} (haccept : m.accept content = .ok (s, key)) (r : Revision) :
    (m.write s.type key ⟨content, r⟩).AllAccepted := by
  intro type' key' e he
  rw [accept_congr (catalog_write m s.type key ⟨content, r⟩)]
  rw [held?_write] at he
  split at he
  · next hplace =>
    obtain ⟨rfl, rfl⟩ := hplace
    obtain rfl := Option.some.inj he
    exact ⟨s, haccept, rfl⟩
  · exact h type' key' e he

theorem AllAccepted.remove {m : Memory} (h : m.AllAccepted) (type key : String) :
    (m.remove type key).AllAccepted := by
  intro type' key' e he
  rw [accept_congr (catalog_remove m type key)]
  rw [held?_remove] at he
  split at he
  · cases he
  · exact h type' key' e he

theorem AllAccepted.perform {m : Memory} (h : m.AllAccepted) (call : Call) :
    (call.perform m).2.AllAccepted := by
  have heffect := effect_perform m call
  generalize (call.perform m).2 = m' at heffect ⊢
  cases heffect with
  | kept _ => exact h
  | drew _ _ => exact h.draw
  | wrote s key content _ haccept _ _ _ => exact h.draw.write haccept _
  | removed type key _ _ _ => exact h.remove type key

theorem allAccepted_afterCalls (c : Catalog) (calls : List Call) :
    (afterCalls (new c) calls).AllAccepted := by
  have hnew : (new c).AllAccepted := fun type key e he => by cases he
  exact List.foldlRecOn calls _ hnew fun m h call _ => h.perform call

end Memory

/-- Content that is good by the schema of some objects can be read as one, which is checked. -/
theorem Schema.of_validate {α : Type} [Spec α] {type plural : String} {content : Message}
    (h : (Schema.of α type plural).validate content = .ok []) :
    ∃ a, content.decode? α = some a ∧ Spec.validate a = .ok [] := by
  rw [validate] at h
  split at h
  · cases h
  · simp only [Schema.of] at h
    cases hdecode : content.decode α with
    | error text => simp [hdecode] at h
    | ok a =>
      rw [hdecode] at h
      exact ⟨a, by simp [Message.decode?, hdecode, Except.toOption], h⟩

/-- The key of content that can be read is the key of what it is read as. -/
theorem Schema.key_of_decode? {α : Type} [Spec α] {type plural : String} {content : Message}
    {a : α} {key : String} (ha : content.decode? α = some a)
    (hkey : (Schema.of α type plural).key content = .ok key) : Spec.key a = key := by
  rw [Message.decode?] at ha
  simp only [Schema.key, Schema.of] at hkey
  cases hdecode : content.decode α with
  | error text =>
    rw [hdecode] at ha
    cases ha
  | ok b =>
    rw [hdecode] at ha hkey
    obtain rfl : b = a := Option.some.inj ha
    exact Except.ok.inj hkey

end Config

namespace Rule

open Config

/-- What can be read of the records of a type. -/
theorem listOf_memory (α : Type) [Spec α] (type : String) (m : Memory) :
    (listOf α type m).1 = (m.ofType type).toList.filterMap fun e => e.2.content.decode? α := by
  change (m.list type).filterMap _ = _
  rw [Memory.list, List.filterMap_map]
  rfl

theorem mem_listOf {α : Type} [Spec α] {type : String} {m : Memory} {a : α}
    (h : a ∈ (listOf α type m).1) :
    ∃ key e, m.held? type key = some e ∧ e.content.decode? α = some a := by
  rw [listOf_memory] at h
  obtain ⟨⟨key, e⟩, hmem, hdecode⟩ := List.mem_filterMap.mp h
  exact ⟨key, e, ((m.ofType type).mem_toList_iff key e).mp hmem, hdecode⟩

theorem eq_of_type {s t : Schema} (hs : s ∈ catalog) (ht : t ∈ catalog) (h : s.type = t.type) :
    s = t := by
  have htypes : (catalog.map (·.type)).Nodup := by decide
  exact List.inj_on_of_nodup_map htypes hs ht h

/-- What is held under a type has the schema of that type, which finds no problem and gives its
key. -/
theorem accepted_of_held? {α : Type} [Spec α] {type plural : String}
    (htype : Schema.of α type plural ∈ catalog) {m : Memory} (hcatalog : m.catalog = catalog)
    (h : m.AllAccepted) {key : String} {e : Entry} (he : m.held? type key = some e) :
    (Schema.of α type plural).validate e.content = .ok [] ∧
      (Schema.of α type plural).key e.content = .ok key := by
  obtain ⟨s, haccept, hs⟩ := h type key e he
  obtain ⟨hschema, -, hvalid, hkey⟩ := Memory.accept_eq_ok_iff.mp haccept
  have hmem : s ∈ catalog := by
    rw [hcatalog] at hschema
    exact List.mem_of_find?_eq_some hschema
  rw [eq_of_type hmem htype hs] at hvalid hkey
  exact ⟨hvalid, hkey⟩

/-- Whatever can be read of the records of a type is checked. -/
theorem validate_of_mem_listOf {α : Type} [Spec α] {type plural : String}
    (htype : Schema.of α type plural ∈ catalog) {m : Memory} (hcatalog : m.catalog = catalog)
    (h : m.AllAccepted) {a : α} (ha : a ∈ (listOf α type m).1) : Spec.validate a = .ok [] := by
  obtain ⟨key, e, he, hdecode⟩ := mem_listOf ha
  obtain ⟨hvalid, -⟩ := accepted_of_held? htype hcatalog h he
  obtain ⟨a', hdecode', hvalid'⟩ := Schema.of_validate hvalid
  obtain rfl := Option.some.inj (hdecode.symm.trans hdecode')
  exact hvalid'

/-- Whatever can be read of the records of a type stands under its own key. -/
theorem key_of_held? {α : Type} [Spec α] {type plural : String}
    (htype : Schema.of α type plural ∈ catalog) {m : Memory} (hcatalog : m.catalog = catalog)
    (h : m.AllAccepted) {key : String} {e : Entry} (he : m.held? type key = some e) {a : α}
    (ha : e.content.decode? α = some a) : Spec.key a = key :=
  Schema.key_of_decode? ha (accepted_of_held? htype hcatalog h he).2

/-- The objects of a type come in the order of their keys. -/
theorem pairwise_key_listOf {α : Type} [Spec α] {type plural : String}
    (htype : Schema.of α type plural ∈ catalog) {m : Memory} (hcatalog : m.catalog = catalog)
    (h : m.AllAccepted) :
    (listOf α type m).1.Pairwise fun a b => Spec.key a < Spec.key b := by
  have hkey : ∀ e ∈ (m.ofType type).toList, ∀ a, e.2.content.decode? α = some a →
      Spec.key a = e.1 := by
    rintro ⟨key, e⟩ he a ha
    exact key_of_held? htype hcatalog h (((m.ofType type).mem_toList_iff key e).mp he) ha
  have hsorted : (m.ofType type).toList.Pairwise fun e e' => e.1 < e'.1 := (m.ofType type).sorted
  rw [listOf_memory, List.pairwise_filterMap]
  refine hsorted.imp_of_mem ?_
  intro e e' he he' hlt a ha b hb
  rw [hkey e he a ha, hkey e' he' b hb]
  exact hlt

theorem validate_of_mem_routeRules {m : Memory} (hcatalog : m.catalog = catalog)
    (h : m.AllAccepted) {rule : RouteRule} (hrule : rule ∈ (routeRules m).1) :
    rule.validate = .ok [] := by
  have htype : Schema.of RouteRule routeRuleType "route-rules" ∈ catalog := List.mem_cons_self
  exact validate_of_mem_listOf htype hcatalog h hrule

theorem validate_of_mem_ingressRules {m : Memory} (hcatalog : m.catalog = catalog)
    (h : m.AllAccepted) {r : IngressRule} (hr : r ∈ (ingressRules m).1) :
    r.validate = .ok [] := by
  have htype : Schema.of IngressRule ingressRuleType "ingress-rules" ∈ catalog :=
    List.mem_cons_of_mem _ List.mem_cons_self
  exact validate_of_mem_listOf htype hcatalog h hr

/-! ### A rule that is posted -/

theorem ofType_write (m : Memory) (type key : String) (e : Entry) (type' : String) :
    (m.write type key e).ofType type' =
      if type' = type then (m.ofType type).insert key e else m.ofType type' := by
  rw [Memory.ofType, Memory.write, Table.find?_insert]
  split <;> rfl

theorem name_of_decode? {α : Type} [Spec α] {content : Message} {a : α}
    (h : content.decode? α = some a) : content.name = Spec.messageName α := by
  rw [Message.decode?, Message.decode] at h
  split at h
  · next hname => exact hname
  · cases h

/-- A rule that is posted joins the route rules at one place, and leaves the ingress rules as
they are. -/
theorem rules_post {m : Memory} (hcatalog : m.catalog = catalog) {content : Message}
    {rule : RouteRule} {r : Revision} (hrule : content.decode? RouteRule = some rule)
    (hpost : (m.post content).1 = .ok r) :
    (∃ before after, (routeRules m).1 = before ++ after ∧
      (routeRules (m.post content).2).1 = before ++ rule :: after) ∧
    (ingressRules (m.post content).2).1 = (ingressRules m).1 := by
  cases haccept : m.accept content with
  | error e =>
    rw [Memory.post_of_refused haccept] at hpost
    cases hpost
  | ok place =>
    obtain ⟨s, key⟩ := place
    obtain ⟨hschema, -, -, -⟩ := Memory.accept_eq_ok_iff.mp haccept
    have htype : s.type = routeRuleType := by
      have hfound : catalog.byMessage? (Spec.messageName RouteRule) =
          some (.of RouteRule routeRuleType "route-rules") := rfl
      rw [hcatalog, name_of_decode? hrule, hfound] at hschema
      obtain rfl := Option.some.inj hschema
      rfl
    rw [Memory.post_of_accepted haccept] at hpost ⊢
    cases hheld : m.held? s.type key with
    | some e => simp [hheld] at hpost
    | none =>
      simp only [Option.isSome_none, Bool.false_eq_true, if_false]
      rw [htype] at hheld ⊢
      obtain ⟨before, after, hold, hput⟩ := Entries.put_of_absent
        (⟨content, Memory.revisionAt m.draw.writes⟩ : Entry) hheld
      constructor
      · refine ⟨before.filterMap fun e => e.2.content.decode? RouteRule,
          after.filterMap fun e => e.2.content.decode? RouteRule, ?_, ?_⟩
        · rw [routeRules, listOf_memory, Table.toList, hold, List.filterMap_append]
        · rw [routeRules, listOf_memory, ofType_write, if_pos rfl]
          change (Entries.put textLt key _ (m.ofType routeRuleType).entries).filterMap _ = _
          rw [hput, List.filterMap_append]
          simp only [List.filterMap_cons, hrule]
      · rw [ingressRules, ingressRules, listOf_memory, listOf_memory, ofType_write,
          if_neg (by decide)]
        rfl

end Rule

end MeshControl
