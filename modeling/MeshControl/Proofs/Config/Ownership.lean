import MeshControl.Proofs.Config.Effects
import MeshControl.Proofs.Config.Routing

/-!
A federation of stores in memory behaves as one ledger of all their types. In a sound catalog no
type and no message name occurs twice, so a call concerns at most one member; that member's answer
is the one that a ledger over the whole catalog gives, and no other member moves.
-/
namespace MeshControl.Config

namespace Catalog

/-! ### What a call concerns -/

/-- Whether a catalog knows the type that a call is about. -/
def Concerns (c : Catalog) : Call → Prop
  | .get type _ | .list type | .delete type _ => type ∈ c.types
  | .post content | .put content _ => content.name ∈ c.map (·.messageName)

/-- Whether two catalogs say the same of what a call is about. -/
def SameFor (c c' : Catalog) : Call → Prop
  | .get _ _ | .list _ => True
  | .delete type _ => c.get? type = c'.get? type
  | .post content | .put content _ => c.byMessage? content.name = c'.byMessage? content.name

theorem IsSound.sameFor_of_concerns {c c' : Catalog} (h : c.IsSound) (hsub : c'.Sublist c)
    {call : Call} (hcall : c'.Concerns call) : c'.SameFor c call := by
  have hmessage : ∀ name, name ∈ c'.map (·.messageName) →
      c'.byMessage? name = c.byMessage? name := by
    intro name hname
    obtain ⟨s, hs, rfl⟩ := List.mem_map.mp hname
    rw [(h.sublist hsub).byMessage?_eq_some_iff.mpr ⟨hs, rfl⟩,
      h.byMessage?_eq_some_iff.mpr ⟨hsub.subset hs, rfl⟩]
  cases call with
  | get type key => trivial
  | list type => trivial
  | post content => exact hmessage content.name hcall
  | put content r => exact hmessage content.name hcall
  | delete type key =>
    obtain ⟨s, hs, rfl⟩ := List.mem_map.mp hcall
    have hfound : c'.get? s.type = some s := (h.sublist hsub).get?_eq_some_iff.mpr ⟨hs, rfl⟩
    have hall : c.get? s.type = some s := h.get?_eq_some_iff.mpr ⟨hsub.subset hs, rfl⟩
    exact hfound.trans hall.symm

/-- Of what no schema knows, a catalog says as much as an empty one. -/
theorem sameFor_nil_of_not_concerns {c : Catalog} {call : Call} (hcall : ¬ c.Concerns call) :
    SameFor [] c call := by
  cases call with
  | get type key => trivial
  | list type => trivial
  | post content => exact (byMessage?_eq_none_iff.mpr hcall).symm
  | put content r => exact (byMessage?_eq_none_iff.mpr hcall).symm
  | delete type key => exact (get?_eq_none_iff.mpr hcall).symm

theorem place?_congr {c c' : Catalog} {m : Message}
    (h : c.byMessage? m.name = c'.byMessage? m.name) : c.place? m = c'.place? m := by
  rw [place?, place?, h]

end Catalog

/-- The type of the records that a call may read or change. -/
def Call.type? (c : Catalog) : Call → Option String
  | get type _ | list type | delete type _ => some type
  | post content | put content _ => (c.byMessage? content.name).map (·.type)

theorem Catalog.type_of_place? {c : Catalog} {m : Message} {place : Place}
    (h : c.place? m = some place) : (c.byMessage? m.name).map (·.type) = some place.1 := by
  obtain ⟨s, hs, hkey⟩ := Option.bind_eq_some_iff.mp h
  obtain ⟨key, -, rfl⟩ := Option.map_eq_some_iff.mp hkey
  rw [hs, Option.map_some]

/-- A call changes no record but of its own type. -/
theorem Call.type?_of_changed? {c : Catalog} {e : Exchange} {place : Place}
    (h : e.changed? c = some place) : e.call.type? c = some place.1 := by
  unfold Exchange.changed? at h
  split at h
  · exact Catalog.type_of_place? h
  · exact Catalog.type_of_place? h
  · rw [← Option.some.inj h]
    rfl
  · cases h

theorem Exchange.changed?_congr {c c' : Catalog} {e : Exchange} (h : c.SameFor c' e.call) :
    e.changed? c = e.changed? c' := by
  unfold Exchange.changed?
  split
  · exact Catalog.place?_congr h
  · exact Catalog.place?_congr h
  · rfl
  · rfl

/-! ### Two ledgers for one call -/

namespace Ledger

variable {c c' : Catalog} {l l' : Ledger}

theorem lists_congr {type : String} (h : ∀ key, l (type, key) = l' (type, key))
    {records : List Record} (hl : l.Lists type records) : l'.Lists type records := by
  refine ⟨hl.1, fun r => ?_⟩
  rw [← h r.key]
  exact hl.2 r

theorem bind_place?_congr {m : Message} (hsame : c.byMessage? m.name = c'.byMessage? m.name)
    (h : ∀ type, (c.byMessage? m.name).map (·.type) = some type →
      ∀ key, l (type, key) = l' (type, key)) :
    (c.place? m).bind l = (c'.place? m).bind l' := by
  rw [← Catalog.place?_congr hsame]
  cases hplace : c.place? m with
  | none => rfl
  | some place => exact h place.1 (Catalog.type_of_place? hplace) place.2

/-- What a call demands depends on what the catalog says of it and on the records of its type. -/
theorem demands_congr {call : Call} (hsame : c.SameFor c' call)
    (h : ∀ type, call.type? c = some type → ∀ key, l (type, key) = l' (type, key)) :
    l.demands c call = l'.demands c' call := by
  cases call with
  | get type key => rfl
  | list type => rfl
  | post content =>
    have hmessage : c.byMessage? content.name = c'.byMessage? content.name := hsame
    simp only [demands, Catalog.isWritable, Catalog.hasVerdict, Catalog.isValid, hmessage,
      bind_place?_congr hmessage h]
  | put content r =>
    have hmessage : c.byMessage? content.name = c'.byMessage? content.name := hsame
    simp only [demands, Catalog.isWritable, Catalog.hasVerdict, Catalog.isValid, hmessage,
      bind_place?_congr hmessage h]
  | delete type key =>
    have htype : c.get? type = c'.get? type := hsame
    simp only [demands, htype, h type rfl key]

theorem explains_congr {e : Exchange} (hsame : c.SameFor c' e.call)
    (h : ∀ type, e.call.type? c = some type → ∀ key, l (type, key) = l' (type, key))
    (he : l.Explains c e) : l'.Explains c' e := by
  obtain ⟨hfailure, hanswer⟩ := he
  refine ⟨?_, ?_⟩
  · rw [hfailure, failure?, failure?, demands_congr hsame h]
  · unfold Answers at hanswer ⊢
    split at hanswer
    · next type key entry => exact hanswer.trans (h type rfl key)
    · next type records => exact lists_congr (h type rfl) hanswer
    · trivial
    · trivial
    · trivial
    · exact hanswer.elim

theorem record_congr {e : Exchange} (hsame : c.SameFor c' e.call) {place : Place}
    (h : l place = l' place) : l.record c e place = l'.record c' e place := by
  have hupdate : ∀ (at' : Place) entry,
      Function.update l at' entry place = Function.update l' at' entry place := by
    intro at' entry
    by_cases hplace : place = at'
    · rw [hplace, Function.update_self, Function.update_self]
    · rw [Function.update_of_ne hplace, Function.update_of_ne hplace, h]
  unfold record
  split
  · next m r =>
    rw [← Catalog.place?_congr hsame]
    cases c.place? m with
    | none => exact h
    | some _ => exact hupdate _ _
  · next m old r =>
    rw [← Catalog.place?_congr hsame]
    cases c.place? m with
    | none => exact h
    | some _ => exact hupdate _ _
  · exact hupdate _ _
  · exact h

/-- A record that a call does not change stays what it was. -/
theorem record_of_ne {e : Exchange} {place : Place} (h : e.changed? c ≠ some place) :
    l.record c e place = l place := by
  unfold Exchange.changed? at h
  unfold record
  split at h
  · next m r =>
    cases hplace : c.place? m with
    | none => simp [hplace]
    | some place' =>
      have hne : place ≠ place' := fun heq => h (heq ▸ hplace)
      simp [hplace, Function.update_of_ne hne]
  · next m old r =>
    cases hplace : c.place? m with
    | none => simp [hplace]
    | some place' =>
      have hne : place ≠ place' := fun heq => h (heq ▸ hplace)
      simp [hplace, Function.update_of_ne hne]
  · next type key _ =>
    have hne : place ≠ (type, key) := fun heq => h (heq ▸ rfl)
    exact Function.update_of_ne hne none l
  · next hpost hput hdelete =>
    split
    · exact absurd rfl (hpost _ _)
    · exact absurd rfl (hput _ _ _)
    · exact absurd rfl (hdelete _ _ _)
    · rfl

end Ledger

/-! ### Members of a federation -/

namespace Federation

/-- Stores whose types and message names are all different can be put together. -/
theorem new_of_isSound {members : List Memory}
    (h : Catalog.IsSound (members.flatMap Memory.catalog)) : new members = .ok ⟨members⟩ :=
  new_eq_ok_iff.mpr ⟨rfl, h.types⟩

variable {u : Federation Memory} {i : Nat} {m : Memory}

/-- A call that a federation knows of concerns one of its members. -/
theorem exists_member_of_concerns {call : Call} (h : u.catalog.Concerns call) :
    ∃ (i : Nat) (m : Memory), u.members[i]? = some m ∧ m.catalog.Concerns call := by
  have hmember : ∀ (f : Schema → String) name, name ∈ u.catalog.map f →
      ∃ (i : Nat) (m : Memory), u.members[i]? = some m ∧ name ∈ m.catalog.map f := by
    intro f name hname
    obtain ⟨s, hs, rfl⟩ := List.mem_map.mp hname
    obtain ⟨i, m, hm, hs⟩ := exists_member_of_mem hs
    exact ⟨i, m, hm, List.mem_map_of_mem hs⟩
  cases call with
  | get type key => exact hmember _ type h
  | list type => exact hmember _ type h
  | delete type key => exact hmember _ type h
  | post content => exact hmember _ content.name h
  | put content r => exact hmember _ content.name h

/-! ### Calls to a federation -/

theorem forMessage_of_member (h : u.catalog.IsSound) (hm : u.members[i]? = some m)
    {content : Message} (hname : content.name ∈ m.catalog.map (·.messageName))
    (call : Memory → Except StoreError Revision × Memory) :
    u.forMessage content call = ((call m).1, u.setMember i (call m).2) := by
  obtain ⟨s, hs, hsname⟩ := List.mem_map.mp hname
  have hfound : u.catalog.byMessage? content.name = some s :=
    h.byMessage?_eq_some_iff.mpr ⟨(sublist_catalog hm).subset hs, hsname⟩
  exact forMessage_of_found h.types hm hs hfound call

/-- A call goes to the member that it concerns, and to no other. -/
theorem perform_of_member (h : u.catalog.IsSound) (hm : u.members[i]? = some m) {call : Call}
    (hcall : m.catalog.Concerns call) :
    call.perform u = ((call.perform m).1, u.setMember i (call.perform m).2) := by
  cases call with
  | get type key =>
    have hget : u.get type key = m.get type key := get_of_member h.types hm hcall key
    have hsame : u.setMember i m = u := setMember_self hm
    simp only [Call.perform, Store.get, hget, hsame]
  | list type =>
    have hlist := forType_of_member h.types hm hcall (.ok []) fun s => Store.list s type
    simp only [Call.perform, Store.list] at hlist ⊢
    rw [hlist]
  | post content =>
    have hpost := forMessage_of_member h hm hcall fun s => Store.post s content
    simp only [Call.perform, Store.post] at hpost ⊢
    rw [hpost]
  | put content r =>
    have hput := forMessage_of_member h hm hcall fun s => Store.put s content r
    simp only [Call.perform, Store.put] at hput ⊢
    rw [hput]
  | delete type key =>
    have hdelete := forType_of_member h.types hm hcall (.error (.unknownType type))
      fun s => Store.delete s type key
    simp only [Call.perform, Store.delete] at hdelete ⊢
    rw [hdelete]

/-- A call that concerns no member is answered as by a store that knows nothing. -/
theorem perform_of_unknown {call : Call} (hcall : ¬ u.catalog.Concerns call) :
    call.perform u = ((call.perform (Memory.new [])).1, u) := by
  cases call with
  | get type key =>
    have hget : u.get type key = none := get_of_unknown hcall key
    simp only [Call.perform, Store.get, hget]
    rfl
  | list type =>
    have hlist := forType_of_unknown hcall (.ok []) fun s : Memory => Store.list s type
    simp only [Call.perform, Store.list] at hlist ⊢
    rw [hlist]
    rfl
  | post content =>
    have hpost := forMessage_of_unknown hcall fun s => Store.post s content
    simp only [Call.perform, Store.post] at hpost ⊢
    rw [hpost]
    rfl
  | put content r =>
    have hput := forMessage_of_unknown hcall fun s => Store.put s content r
    simp only [Call.perform, Store.put] at hput ⊢
    rw [hput]
    rfl
  | delete type key =>
    have hdelete := forType_of_unknown hcall (.error (.unknownType type))
      fun s : Memory => Store.delete s type key
    simp only [Call.perform, Store.delete] at hdelete ⊢
    rw [hdelete]
    rfl

theorem catalog_perform (h : u.catalog.IsSound) (call : Call) :
    (call.perform u).2.catalog = u.catalog := by
  by_cases hcall : u.catalog.Concerns call
  · obtain ⟨i, m, hm, hconcerns⟩ := exists_member_of_concerns hcall
    rw [perform_of_member h hm hconcerns]
    exact catalog_setMember hm (Memory.catalog_perform m call)
  · rw [perform_of_unknown hcall]

/-! ### One ledger for all members -/

/-- The federation shows what the map holds. -/
def Shows (u : Federation Memory) (l : Ledger) : Prop :=
  ∀ type key, u.get type key = l (type, key)

/-- A call is about a type of the member that it concerns. -/
theorem mem_types_of_type? {c : Catalog} {call : Call} (h : c.Concerns call) {type : String}
    (htype : call.type? c = some type) : type ∈ c.types := by
  have hmessage : ∀ name, (c.byMessage? name).map (·.type) = some type → type ∈ c.types := by
    intro name hname
    obtain ⟨s, hs, rfl⟩ := Option.map_eq_some_iff.mp hname
    exact List.mem_map_of_mem (List.mem_of_find?_eq_some hs)
  cases call with
  | get _ _ => exact Option.some.inj htype ▸ h
  | list _ => exact Option.some.inj htype ▸ h
  | delete _ _ => exact Option.some.inj htype ▸ h
  | post content => exact hmessage content.name htype
  | put content r => exact hmessage content.name htype

theorem not_mem_types_of_type? {c : Catalog} {call : Call} (h : ¬ c.Concerns call)
    {type : String} (htype : call.type? [] = some type) : type ∉ c.types := by
  cases call with
  | get _ _ => exact Option.some.inj htype ▸ h
  | list _ => exact Option.some.inj htype ▸ h
  | delete _ _ => exact Option.some.inj htype ▸ h
  | post content => cases htype
  | put content r => cases htype

/-- One call keeps a federation and one map over all its types in step. -/
theorem perform_explained (h : u.catalog.IsSound) {l : Ledger} (hl : u.Shows l) (call : Call) :
    l.Explains u.catalog ⟨call, (call.perform u).1⟩ ∧
      (call.perform u).2.Shows (l.record u.catalog ⟨call, (call.perform u).1⟩) := by
  by_cases hcall : u.catalog.Concerns call
  · obtain ⟨i, m, hm, hconcerns⟩ := exists_member_of_concerns hcall
    have hsame := h.sameFor_of_concerns (sublist_catalog hm) hconcerns
    -- what the member shows is the part of the map that the call is about
    have hshows : m.Shows fun place => m.get place.1 place.2 := fun _ _ => rfl
    have hpart : ∀ type ∈ m.catalog.types, ∀ key, m.get type key = l (type, key) := by
      intro type htype key
      rw [← hl]
      exact (get_of_member h.types hm htype key).symm
    obtain ⟨hexplains, hnext⟩ := Memory.perform_explained hshows call
    rw [perform_of_member h hm hconcerns]
    refine ⟨Ledger.explains_congr hsame ?_ hexplains, ?_⟩
    · intro type htype
      exact hpart type (mem_types_of_type? hconcerns htype)
    · intro type key
      rw [get_setMember h.types hm (Memory.catalog_perform m call)]
      split
      · next htype =>
        exact (hnext type key).trans (Ledger.record_congr hsame (hpart type htype key))
      · next htype =>
        rw [hl type key, Ledger.record_of_ne]
        intro hchanged
        rw [← Exchange.changed?_congr (e := ⟨call, (call.perform m).1⟩) hsame] at hchanged
        exact htype (mem_types_of_type? hconcerns (Call.type?_of_changed? hchanged))
  · have hsame := Catalog.sameFor_nil_of_not_concerns hcall
    have hshows : (Memory.new []).Shows Ledger.empty := fun _ _ => rfl
    obtain ⟨hexplains, -⟩ := Memory.perform_explained hshows call
    have hidle : Exchange.changed? [] ⟨call, (call.perform (Memory.new [])).1⟩ = none := by
      cases call <;> rfl
    rw [perform_of_unknown hcall]
    refine ⟨Ledger.explains_congr hsame ?_ hexplains, ?_⟩
    · intro type htype key
      have hunknown : type ∉ u.catalog.types := not_mem_types_of_type? hcall htype
      rw [← hl, get_of_unknown hunknown]
      rfl
    · intro type key
      rw [hl type key, Ledger.record_of_ne]
      rw [← Exchange.changed?_congr (e := ⟨call, (call.perform (Memory.new [])).1⟩) hsame, hidle]
      exact nofun

end Federation

end MeshControl.Config
