import Mathlib.Data.List.Nodup
import MeshControl.Config.Federation
import MeshControl.Proofs.Table

/-!
How a federation finds the member for a call. A federation knows no type twice, so a type has one
member, a call by type goes there, and a member that changes does so for its own types. A call by
message goes to the member that knows the type of the first schema with the name of the message.
-/
namespace MeshControl.Config

/-- Schemas that may stand in one catalog. -/
def Schema.Apart (s t : Schema) : Prop := s.type ≠ t.type ∧ s.messageName ≠ t.messageName

namespace Catalog

/-! ### Sound catalogs -/

/-- No type and no message name stands in a catalog twice. -/
structure IsSound (c : Catalog) : Prop where
  types : c.types.Nodup
  messageNames : (c.map (·.messageName)).Nodup

theorem isSound_iff {c : Catalog} : c.IsSound ↔ c.Pairwise Schema.Apart := by
  have hparts : c.Pairwise Schema.Apart ↔ c.types.Nodup ∧ (c.map (·.messageName)).Nodup := by
    rw [types, List.nodup_iff_pairwise_ne, List.nodup_iff_pairwise_ne, List.pairwise_map,
      List.pairwise_map]
    exact List.pairwise_and_iff
  rw [hparts]
  exact ⟨fun h => ⟨h.types, h.messageNames⟩, fun h => ⟨h.1, h.2⟩⟩

theorem schemaProblems_append_singleton {earlier : Catalog} {s t : Schema} :
    schemaProblems (earlier ++ [s]) t = [] ↔ schemaProblems earlier t = [] ∧ s.Apart t := by
  simp only [schemaProblems, List.append_eq_nil_iff, problemIf_eq_nil, List.any_append,
    List.any_cons, List.any_nil, Bool.or_false, Bool.or_eq_false_iff, beq_eq_false_iff_ne,
    Schema.Apart]
  tauto

theorem validateFrom_eq_nil_iff {earlier c : Catalog} :
    validateFrom earlier c = [] ↔
      (∀ s ∈ c, schemaProblems earlier s = []) ∧ c.Pairwise Schema.Apart := by
  induction c generalizing earlier with
  | nil => simp [validateFrom]
  | cons s rest ih =>
    rw [validateFrom, List.append_eq_nil_iff, ih, List.forall_mem_cons, List.pairwise_cons]
    simp only [schemaProblems_append_singleton]
    constructor
    · rintro ⟨hs, hrest, hapart⟩
      exact ⟨⟨hs, fun t ht => (hrest t ht).1⟩, fun t ht => (hrest t ht).2, hapart⟩
    · rintro ⟨⟨hs, hrest⟩, hnew, hapart⟩
      exact ⟨hs, fun t ht => ⟨hrest t ht, hnew t ht⟩, hapart⟩

/-- A catalog is valid if each schema is by itself and the catalog is sound. -/
theorem validate_eq_nil_iff {c : Catalog} :
    c.validate = [] ↔ (∀ s ∈ c, schemaProblems [] s = []) ∧ c.IsSound := by
  rw [validate, validateFrom_eq_nil_iff, isSound_iff]

theorem isSound_of_validate {c : Catalog} (h : c.validate = []) : c.IsSound :=
  (validate_eq_nil_iff.mp h).2

theorem IsSound.sublist {c c' : Catalog} (h : c.IsSound) (hsub : c'.Sublist c) : c'.IsSound where
  types := (hsub.map _).nodup h.types
  messageNames := (hsub.map _).nodup h.messageNames

theorem IsSound.get?_eq_some_iff {c : Catalog} (h : c.IsSound) {type : String} {s : Schema} :
    c.get? type = some s ↔ s ∈ c ∧ s.type = type :=
  find?_eq_some_iff_of_nodup h.types

theorem IsSound.byMessage?_eq_some_iff {c : Catalog} (h : c.IsSound) {name : String}
    {s : Schema} : c.byMessage? name = some s ↔ s ∈ c ∧ s.messageName = name :=
  find?_eq_some_iff_of_nodup h.messageNames

theorem get?_eq_none_iff {c : Catalog} {type : String} :
    c.get? type = none ↔ type ∉ c.types := by
  simp [get?, types]

theorem byMessage?_eq_none_iff {c : Catalog} {name : String} :
    c.byMessage? name = none ↔ name ∉ c.map (·.messageName) := by
  simp [byMessage?]

end Catalog

namespace Federation

/-! ### Members of a federation -/

theorem repeated?_eq_none_iff {seen types : List String} :
    repeated? seen types = none ↔ types.Nodup ∧ ∀ t ∈ types, t ∉ seen := by
  induction types generalizing seen with
  | nil => simp [repeated?]
  | cons t types ih =>
    rw [repeated?, List.nodup_cons, List.forall_mem_cons]
    by_cases ht : t ∈ seen
    · simp [ht]
    · rw [if_neg (by simpa using ht), ih]
      simp only [List.mem_cons, not_or]
      constructor
      · rintro ⟨htypes, hnew⟩
        exact ⟨⟨fun hmem => (hnew t hmem).1 rfl, htypes⟩, ht, fun t' ht' => (hnew t' ht').2⟩
      · rintro ⟨⟨hhead, htypes⟩, -, hold⟩
        exact ⟨htypes, fun t' ht' => ⟨fun heq => hhead (heq ▸ ht'), hold t' ht'⟩⟩

variable {σ : Type} {u : Federation σ} {i : Nat} {m : σ}

theorem setMember_self (hm : u.members[i]? = some m) : u.setMember i m = u := by
  obtain ⟨hi, rfl⟩ := List.getElem?_eq_some_iff.mp hm
  rw [setMember, List.set_getElem_self]

variable [Store σ]

/-- Stores can be put together if none of their types stands there twice. -/
theorem new_eq_ok_iff {members : List σ} :
    new members = .ok u ↔ u = ⟨members⟩ ∧ u.catalog.types.Nodup := by
  have hnone : repeated? [] (catalog ⟨members⟩).types = none ↔
      (catalog ⟨members⟩).types.Nodup := by
    simp [repeated?_eq_none_iff]
  rw [new]
  cases hrepeated : repeated? [] (catalog ⟨members⟩).types with
  | none =>
    simp only [Except.ok.injEq]
    constructor
    · rintro rfl
      exact ⟨rfl, hnone.mp hrepeated⟩
    · exact fun h => h.1.symm
  | some type =>
    simp only [reduceCtorEq, false_iff]
    rintro ⟨rfl, htypes⟩
    rw [hnone.mpr htypes] at hrepeated
    cases hrepeated

theorem sublist_catalog (hm : u.members[i]? = some m) : (Store.catalog m).Sublist u.catalog := by
  have hmem : Store.catalog m ∈ u.members.map Store.catalog :=
    List.mem_map_of_mem (List.mem_of_getElem? hm)
  exact List.sublist_flatten_of_mem hmem

theorem exists_member_of_mem {s : Schema} (hs : s ∈ u.catalog) :
    ∃ (i : Nat) (m : σ), u.members[i]? = some m ∧ s ∈ Store.catalog m := by
  obtain ⟨m, hm, hs⟩ := List.mem_flatMap.mp hs
  obtain ⟨i, hi⟩ := List.mem_iff_getElem?.mp hm
  exact ⟨i, m, hi, hs⟩

theorem types_catalog (u : Federation σ) :
    u.catalog.types = u.members.flatMap fun m => (Store.catalog m).types :=
  List.map_flatMap

/-- The owner of a type is the one member that knows it. -/
theorem owner?_eq_some_iff (h : u.catalog.types.Nodup) {type : String} :
    u.owner? type = some i ↔ ∃ m, u.members[i]? = some m ∧ type ∈ (Store.catalog m).types := by
  have hnodup := h
  rw [types_catalog, List.nodup_flatMap] at hnodup
  have hapart := List.pairwise_iff_getElem.mp hnodup.2
  rw [owner?, List.findIdx?_eq_some_iff_getElem]
  constructor
  · rintro ⟨hi, hknown, -⟩
    exact ⟨u.members[i], List.getElem?_eq_getElem hi, List.contains_iff_mem.mp hknown⟩
  · rintro ⟨m, hm, htype⟩
    obtain ⟨hi, rfl⟩ := List.getElem?_eq_some_iff.mp hm
    refine ⟨hi, List.contains_iff_mem.mpr htype, ?_⟩
    intro j hj hknown
    have hbefore : type ∈ (Store.catalog u.members[j]).types := List.contains_iff_mem.mp hknown
    exact hapart j i (by omega) hi hj hbefore htype

theorem owner?_eq_none_iff {type : String} :
    u.owner? type = none ↔ type ∉ u.catalog.types := by
  rw [owner?, List.findIdx?_eq_none_iff, types_catalog, List.mem_flatMap]
  constructor
  · rintro hnone ⟨m, hm, htype⟩
    have hknown : (Store.catalog m).types.contains type = true :=
      List.contains_iff_mem.mpr htype
    rw [hnone m hm] at hknown
    cases hknown
  · intro hnone m hm
    have hunknown : type ∉ (Store.catalog m).types := fun htype => hnone ⟨m, hm, htype⟩
    simpa using hunknown

theorem catalog_setMember (hm : u.members[i]? = some m) {m' : σ}
    (hcatalog : Store.catalog m' = Store.catalog m) : (u.setMember i m').catalog = u.catalog := by
  obtain ⟨hi, rfl⟩ := List.getElem?_eq_some_iff.mp hm
  have hsame : (u.members.set i m').map Store.catalog = u.members.map Store.catalog := by
    rw [List.map_set, hcatalog]
    have hi' : i < (u.members.map Store.catalog).length := by simpa using hi
    have hget : (u.members.map Store.catalog)[i] = Store.catalog u.members[i] :=
      List.getElem_map _
    rw [← hget, List.set_getElem_self hi']
  exact congrArg List.flatten hsame

/-! ### The member that knows a type -/

def holder? (u : Federation σ) (type : String) : Option σ := (u.owner? type).bind u.member?

theorem holder?_of_member (h : u.catalog.types.Nodup) (hm : u.members[i]? = some m)
    {type : String} (htype : type ∈ (Store.catalog m).types) : u.holder? type = some m := by
  have howner : u.owner? type = some i := (owner?_eq_some_iff h).mpr ⟨m, hm, htype⟩
  rw [holder?, howner, Option.bind_some, member?, hm]

theorem holder?_of_unknown {type : String} (htype : type ∉ u.catalog.types) :
    u.holder? type = none := by
  rw [holder?, owner?_eq_none_iff.mpr htype, Option.bind_none]

/-- A member that is replaced holds its own types as before, and no others. -/
theorem holder?_setMember (h : u.catalog.types.Nodup) (hm : u.members[i]? = some m) {m' : σ}
    (hcatalog : Store.catalog m' = Store.catalog m) (type : String) :
    (u.setMember i m').holder? type =
      if type ∈ (Store.catalog m).types then some m' else u.holder? type := by
  have hnodup : (u.setMember i m').catalog.types.Nodup := catalog_setMember hm hcatalog ▸ h
  have hi : i < u.members.length := (List.getElem?_eq_some_iff.mp hm).1
  have hm' : (u.setMember i m').members[i]? = some m' := List.getElem?_set_self hi
  split
  · next htype =>
    rw [← hcatalog] at htype
    exact holder?_of_member hnodup hm' htype
  · next htype =>
    by_cases hknown : type ∈ u.catalog.types
    · obtain ⟨s, hs, rfl⟩ := List.mem_map.mp hknown
      obtain ⟨j, n, hn, hns⟩ := exists_member_of_mem hs
      have hntype : s.type ∈ (Store.catalog n).types := List.mem_map_of_mem hns
      have hne : i ≠ j := by
        rintro rfl
        rw [hm] at hn
        exact htype (Option.some.inj hn ▸ hntype)
      have hn' : (u.setMember i m').members[j]? = some n := by
        rw [setMember, List.getElem?_set_ne hne]
        exact hn
      rw [holder?_of_member hnodup hn' hntype, holder?_of_member h hn hntype]
    · have hunknown : type ∉ (u.setMember i m').catalog.types :=
        catalog_setMember hm hcatalog ▸ hknown
      rw [holder?_of_unknown hknown, holder?_of_unknown hunknown]

/-! ### Where calls go -/

theorem forType_of_member {α : Type} (h : u.catalog.types.Nodup) (hm : u.members[i]? = some m)
    {type : String} (htype : type ∈ (Store.catalog m).types) (unknown : α) (call : σ → α × σ) :
    u.forType type unknown call = ((call m).1, u.setMember i (call m).2) := by
  have howner : u.owner? type = some i := (owner?_eq_some_iff h).mpr ⟨m, hm, htype⟩
  rw [forType, howner, Option.bind_some, at?, member?, hm]
  rfl

theorem forType_of_unknown {α : Type} {type : String} (htype : type ∉ u.catalog.types)
    (unknown : α) (call : σ → α × σ) : u.forType type unknown call = (unknown, u) := by
  rw [forType, owner?_eq_none_iff.mpr htype]
  rfl

/-- A message goes to the member that has the first schema with its name. -/
theorem forMessage_of_found (h : u.catalog.types.Nodup) (hm : u.members[i]? = some m)
    {content : Message} {s : Schema} (hs : s ∈ Store.catalog m)
    (hfound : u.catalog.byMessage? content.name = some s)
    (call : σ → Except StoreError Revision × σ) :
    u.forMessage content call = ((call m).1, u.setMember i (call m).2) := by
  unfold forMessage
  rw [hfound]
  exact forType_of_member h hm (List.mem_map_of_mem hs) _ call

theorem forMessage_of_unknown {content : Message}
    (hname : content.name ∉ u.catalog.map (·.messageName))
    (call : σ → Except StoreError Revision × σ) :
    u.forMessage content call = (.error (.unknownType content.name), u) := by
  unfold forMessage
  rw [Catalog.byMessage?_eq_none_iff.mpr hname]

theorem get_of_member (h : u.catalog.types.Nodup) (hm : u.members[i]? = some m) {type : String}
    (htype : type ∈ (Store.catalog m).types) (key : String) :
    u.get type key = Store.get m type key := by
  have hholder : (u.owner? type).bind u.member? = some m := holder?_of_member h hm htype
  rw [get, hholder, Option.bind_some]

theorem get_of_unknown {type : String} (htype : type ∉ u.catalog.types) (key : String) :
    u.get type key = none := by
  have hholder : (u.owner? type).bind u.member? = none := holder?_of_unknown htype
  rw [get, hholder, Option.bind_none]

theorem get_setMember (h : u.catalog.types.Nodup) (hm : u.members[i]? = some m) {m' : σ}
    (hcatalog : Store.catalog m' = Store.catalog m) (type key : String) :
    (u.setMember i m').get type key =
      if type ∈ (Store.catalog m).types then Store.get m' type key else u.get type key := by
  have hholder := holder?_setMember h hm hcatalog type
  rw [holder?] at hholder
  rw [get, hholder]
  split <;> rfl

end Federation

end MeshControl.Config
