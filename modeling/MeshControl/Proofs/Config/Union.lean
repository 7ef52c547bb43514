import MeshControl.Config.Memory
import MeshControl.Proofs.Config.Routing

/-!
Stores put together. A federation of stores with valid catalogs is made if no type stands there
twice, also if a message name does. It files a message under the type for which it was made exactly
if the schema of that type is the first with the name of the message, so all types can be written if
and only if the whole catalog is valid; otherwise messages for a later type go to the earlier one.
-/
namespace MeshControl.Config

/-! ### What is asked of a store -/

namespace Store

variable {σ : Type} [Store σ]

/-- Content for a type that may be written, with a key that is not taken. -/
structure IsFresh (m : σ) (s : Schema) (content : Message) (key : String) : Prop where
  known : s ∈ Store.catalog m
  writable : s.internal = false
  valid : s.validate content = .ok []
  keyed : s.key content = .ok key
  free : Store.get m s.type key = none

/-- A message that is posted gets a revision, with which it is then read under a type and a key. -/
def Stores (m : σ) (content : Message) (type key : String) : Prop :=
  ∃ r, (Store.post m content).1 = .ok r ∧
    Store.get (Store.post m content).2 type key = some (content, r)

/-- A store keeps its catalog, and stores what is posted under the type for which it was made. -/
structure IsFiling (m : σ) : Prop where
  catalog_post : ∀ content, Store.catalog (Store.post m content).2 = Store.catalog m
  stores : ∀ s content key, IsFresh m s content key → Stores m content s.type key

/-- Content that is good by a schema has the message name of the schema. -/
theorem IsFresh.name_eq {m : σ} {s : Schema} {content : Message} {key : String}
    (h : IsFresh m s content key) : content.name = s.messageName := by
  by_contra hname
  have hvalid := h.valid
  rw [Schema.validate, if_pos hname] at hvalid
  cases hvalid

end Store

open Store

/-- A store in memory with a sound catalog files what is posted. -/
theorem Memory.isFiling {m : Memory} (h : m.catalog.IsSound) : IsFiling m := by
  refine ⟨catalog_post m, fun s content key hfresh => ?_⟩
  have hfound : m.catalog.byMessage? content.name = some s :=
    h.byMessage?_eq_some_iff.mpr ⟨hfresh.known, hfresh.name_eq.symm⟩
  have haccept : m.accept content = .ok (s, key) :=
    accept_eq_ok_iff.mpr ⟨hfound, hfresh.writable, hfresh.valid, hfresh.keyed⟩
  have hfree : m.held? s.type key = none := Option.map_eq_none_iff.mp hfresh.free
  have hpost := post_of_accepted haccept
  simp only [hfree, Option.isSome_none, Bool.false_eq_true, if_false] at hpost
  refine ⟨revisionAt m.draw.writes, congrArg Prod.fst hpost, ?_⟩
  change (m.post content).2.get s.type key = _
  rw [hpost, get, held?_write, if_pos ⟨rfl, rfl⟩]
  rfl

namespace Federation

variable {σ : Type} [Store σ] {u : Federation σ}

/-! ### The catalog of a federation -/

/-- Message names that no two members share. -/
def NamesApart (members : List σ) : Prop :=
  members.Pairwise fun m n =>
    ∀ s ∈ Store.catalog m, ∀ t ∈ Store.catalog n, s.messageName ≠ t.messageName

/-- Of members with valid catalogs and different types the message names decide. -/
theorem validate_catalog_iff (h : u.catalog.types.Nodup)
    (hvalid : ∀ m ∈ u.members, (Store.catalog m).validate = []) :
    u.catalog.validate = [] ↔ NamesApart u.members := by
  have htypes := List.nodup_iff_pairwise_ne.mp h
  rw [Catalog.types, List.pairwise_map, catalog, List.pairwise_flatMap] at htypes
  rw [Catalog.validate_eq_nil_iff, Catalog.isSound_iff, catalog, List.pairwise_flatMap]
  constructor
  · rintro ⟨-, -, hapart⟩
    exact hapart.imp fun hmn s hs t ht => (hmn s hs t ht).2
  · intro hnames
    refine ⟨fun s hs => ?_, fun m hm => ?_, ?_⟩
    · obtain ⟨m, hm, hs⟩ := List.mem_flatMap.mp hs
      exact (Catalog.validate_eq_nil_iff.mp (hvalid m hm)).1 s hs
    · exact Catalog.isSound_iff.mp (Catalog.isSound_of_validate (hvalid m hm))
    · exact (htypes.2.and hnames).imp fun hmn s hs t ht => ⟨hmn.1 s hs t ht, hmn.2 s hs t ht⟩

/-! ### Messages that are posted -/

variable {i : Nat} {m : σ} {s : Schema} {content : Message}

/-- A message goes to the member that has the first schema with its name. -/
theorem post_of_found (h : u.catalog.types.Nodup) (hm : u.members[i]? = some m)
    (hs : s ∈ Store.catalog m) (hfound : u.catalog.byMessage? content.name = some s) :
    Store.post u content = ((Store.post m content).1, u.setMember i (Store.post m content).2) :=
  forMessage_of_found h hm hs hfound fun m => Store.post m content

/-- After a message was posted, the types of the member that it went to are read from there, and all
others as before. -/
theorem get_post_of_found (h : u.catalog.types.Nodup) (hm : u.members[i]? = some m)
    (hfiling : IsFiling m) (hs : s ∈ Store.catalog m)
    (hfound : u.catalog.byMessage? content.name = some s) (type key : String) :
    Store.get (Store.post u content).2 type key =
      if type ∈ (Store.catalog m).types then Store.get (Store.post m content).2 type key
      else Store.get u type key := by
  rw [post_of_found h hm hs hfound]
  exact get_setMember h hm (hfiling.catalog_post content) type key

theorem catalog_post (h : u.catalog.types.Nodup) (hfiling : ∀ m ∈ u.members, IsFiling m)
    (content : Message) : (Store.post u content).2.catalog = u.catalog := by
  cases hfound : u.catalog.byMessage? content.name with
  | none =>
    have hname := Catalog.byMessage?_eq_none_iff.mp hfound
    have hpost : Store.post u content = (.error (.unknownType content.name), u) :=
      forMessage_of_unknown hname fun m => Store.post m content
    rw [hpost]
  | some s =>
    obtain ⟨i, m, hm, hs⟩ := exists_member_of_mem (List.mem_of_find?_eq_some hfound)
    rw [post_of_found h hm hs hfound]
    exact catalog_setMember hm ((hfiling m (List.mem_of_getElem? hm)).catalog_post content)

/-- Where the message name has its first schema, the member files the message under that type. -/
theorem stores_of_found (h : u.catalog.types.Nodup) (hfiling : ∀ m ∈ u.members, IsFiling m)
    {key : String} (hfresh : IsFresh u s content key)
    (hfound : u.catalog.byMessage? content.name = some s) : Stores u content s.type key := by
  obtain ⟨i, m, hm, hs⟩ := exists_member_of_mem hfresh.known
  have htype : s.type ∈ (Store.catalog m).types := List.mem_map_of_mem hs
  have hmember : IsFiling m := hfiling m (List.mem_of_getElem? hm)
  have hfree : Store.get m s.type key = none :=
    (get_of_member h hm htype key).symm.trans hfresh.free
  obtain ⟨r, hr, hget⟩ :=
    hmember.stores s content key ⟨hs, hfresh.writable, hfresh.valid, hfresh.keyed, hfree⟩
  refine ⟨r, by rw [post_of_found h hm hs hfound]; exact hr, ?_⟩
  rw [get_post_of_found h hm hmember hs hfound, if_pos htype, hget]

/-- Where another schema has the message name first, no message comes under the later type. -/
theorem found_of_stores (h : u.catalog.types.Nodup)
    (hvalid : ∀ m ∈ u.members, (Store.catalog m).validate = [])
    (hfiling : ∀ m ∈ u.members, IsFiling m) {key : String} (hfresh : IsFresh u s content key)
    (hstores : Stores u content s.type key) : u.catalog.byMessage? content.name = some s := by
  have hname : content.name ∈ u.catalog.map (·.messageName) :=
    List.mem_map.mpr ⟨s, hfresh.known, hfresh.name_eq.symm⟩
  cases hfound : u.catalog.byMessage? content.name with
  | none => exact absurd hname (Catalog.byMessage?_eq_none_iff.mp hfound)
  | some t =>
    obtain ⟨j, n, hn, ht⟩ := exists_member_of_mem (List.mem_of_find?_eq_some hfound)
    have htname : t.messageName = content.name := by simpa using List.find?_some hfound
    by_cases hs : s ∈ Store.catalog n
    · have hsound := Catalog.isSound_of_validate (hvalid n (List.mem_of_getElem? hn))
      have hsame : t = s := List.inj_on_of_nodup_map hsound.messageNames ht hs
        (htname.trans hfresh.name_eq)
      rw [hsame]
    · -- The message went to `n`, which does not know the type, so nothing came under it.
      have htype : s.type ∉ (Store.catalog n).types := by
        intro hmem
        obtain ⟨s', hs', htypes⟩ := List.mem_map.mp hmem
        have hsame : s' = s :=
          List.inj_on_of_nodup_map h ((sublist_catalog hn).subset hs') hfresh.known htypes
        exact hs (hsame ▸ hs')
      obtain ⟨r, -, hread⟩ := hstores
      rw [get_post_of_found h hn (hfiling n (List.mem_of_getElem? hn)) ht hfound, if_neg htype,
        hfresh.free] at hread
      cases hread

/-- Stores with valid catalogs that file what is posted are put together. The catalog is valid if
and only if no two of them share a message name, and then the federation files what is posted, as
its members do. In any case a message is filed under the type for which it was made exactly if the
schema of that type is the first with its name. -/
theorem union_files {members : List σ} (hnew : new members = .ok u)
    (hvalid : ∀ m ∈ members, (Store.catalog m).validate = [])
    (hfiling : ∀ m ∈ members, IsFiling m) :
    (u.catalog.validate = [] ↔ NamesApart members) ∧
    (u.catalog.validate = [] → IsFiling u) ∧
    ∀ s content key, IsFresh u s content key →
      (Stores u content s.type key ↔ u.catalog.byMessage? s.messageName = some s) := by
  obtain ⟨rfl, h⟩ := new_eq_ok_iff.mp hnew
  have hfiled : ∀ s content key, IsFresh (⟨members⟩ : Federation σ) s content key →
      (Stores (⟨members⟩ : Federation σ) content s.type key ↔
        (catalog ⟨members⟩).byMessage? s.messageName = some s) := by
    intro s content key hfresh
    rw [← hfresh.name_eq]
    exact ⟨found_of_stores h hvalid hfiling hfresh, stores_of_found h hfiling hfresh⟩
  refine ⟨validate_catalog_iff h hvalid, fun hu => ⟨catalog_post h hfiling, ?_⟩, hfiled⟩
  intro s content key hfresh
  have hsound := Catalog.isSound_of_validate hu
  exact (hfiled s content key hfresh).mpr
    (hsound.byMessage?_eq_some_iff.mpr ⟨hfresh.known, rfl⟩)

/-- Widgets of any content, all under one key. -/
def widget (type messageName : String) : Schema :=
  ⟨type, type ++ "s", messageName, false, fun _ => .ok "w", fun _ => .ok []⟩

/-- Two stores for widgets of one type each, with the names of their messages. -/
def pair (first second : String) : Federation Memory :=
  ⟨[Memory.new [widget "alpha" first], Memory.new [widget "beta" second]]⟩

/-- With different names the second store is reached. -/
theorem union_files_of_different :
    (pair "test.Alpha" "test.Beta").catalog.validate = [] ∧
      Stores (pair "test.Alpha" "test.Beta") ⟨"test.Beta", .null⟩ "beta" "w" := by
  let u := pair "test.Alpha" "test.Beta"
  have hvalid : ∀ m ∈ u.members, (Store.catalog m).validate = [] := by
    simp only [u, pair, List.forall_mem_cons, List.not_mem_nil, false_implies, implies_true,
      and_true]
    decide
  have hfiling : ∀ m ∈ u.members, IsFiling m := fun m hm =>
    Memory.isFiling (Catalog.isSound_of_validate (hvalid m hm))
  have hnames : NamesApart u.members := by
    simp [NamesApart, u, pair, Store.catalog, Memory.new, widget]
  obtain ⟨hcatalog, -, hfiled⟩ := union_files (u := u) (by rfl) hvalid hfiling
  have hfresh : IsFresh u (widget "beta" "test.Beta") ⟨"test.Beta", .null⟩ "w" :=
    ⟨List.mem_cons_of_mem _ List.mem_cons_self, rfl, rfl, rfl, rfl⟩
  exact ⟨hcatalog.mpr hnames, (hfiled _ _ _ hfresh).mpr rfl⟩

/-- With one name for both, valid stores are put together to an invalid catalog, and a message for
the second type is stored under the first. -/
theorem union_misfiles_shared :
    let u := pair "test.Widget" "test.Widget"
    (∀ m ∈ u.members, (Store.catalog m).validate = []) ∧ new u.members = .ok u ∧
      u.catalog.validate = ["duplicate message name: \"test.Widget\""] ∧
      IsFresh u (widget "beta" "test.Widget") ⟨"test.Widget", .null⟩ "w" ∧
      Stores u ⟨"test.Widget", .null⟩ "alpha" "w" ∧
      ¬ Stores u ⟨"test.Widget", .null⟩ "beta" "w" := by
  refine ⟨?_, rfl, by decide, ?_, ⟨"1", rfl, rfl⟩, ?_⟩
  · simp only [pair, List.forall_mem_cons, List.not_mem_nil, false_implies, implies_true, and_true]
    decide
  · exact ⟨List.mem_cons_of_mem _ List.mem_cons_self, rfl, rfl, rfl, rfl⟩
  · rintro ⟨r, -, hget⟩
    cases hget

end Federation

end MeshControl.Config
