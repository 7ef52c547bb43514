import Mathlib.Data.List.Induction
import Mathlib.Data.List.Nodup
import Mathlib.Order.Nat
import MeshControl.Proofs.Config.Effects

/-!
Revisions as tokens of a compare-and-swap. The counter of a store only grows until it runs over,
so no revision is returned twice; a record carries the revision of its last write, so a write that
names the revision of a record has seen that write and nothing after it.
-/
namespace MeshControl.Config

/-- The last change of a place is a write that returned this revision. -/
def LastWrote (c : Catalog) (h : List Exchange) (place : Place) (r : Revision) : Prop :=
  ∃ before e after, h = before ++ e :: after ∧ e.changed? c = some place ∧
    e.granted? = some r ∧ ∀ e' ∈ after, e'.changed? c ≠ some place

theorem LastWrote.append {c : Catalog} {h : List Exchange} {place : Place} {r : Revision}
    (hlast : LastWrote c h place r) {e : Exchange} (he : e.changed? c ≠ some place) :
    LastWrote c (h ++ [e]) place r := by
  obtain ⟨before, w, after, rfl, hplace, hgrant, hafter⟩ := hlast
  refine ⟨before, w, after ++ [e], by simp, hplace, hgrant, ?_⟩
  intro e' he'
  rcases List.mem_append.mp he' with hold | hnew
  · exact hafter e' hold
  · rw [List.mem_singleton.mp hnew]
    exact he

theorem LastWrote.of_last {c : Catalog} {e : Exchange} {place : Place} {r : Revision}
    (hplace : e.changed? c = some place) (hgrant : e.granted? = some r) (h : List Exchange) :
    LastWrote c (h ++ [e]) place r :=
  ⟨h, e, [], rfl, hplace, hgrant, by simp⟩

theorem LastWrote.granted {c : Catalog} {h : List Exchange} {place : Place} {r : Revision}
    (hlast : LastWrote c h place r) : r ∈ h.filterMap Exchange.granted? := by
  obtain ⟨before, w, after, rfl, -, hgrant, -⟩ := hlast
  exact List.mem_filterMap.mpr ⟨w, by simp, hgrant⟩

namespace Memory

/-- What a history tells of the records of the store at its end. -/
structure Tracks (h : List Exchange) (m : Memory) : Prop where
  numbered : ∀ r ∈ h.filterMap Exchange.granted?, ∃ n ≤ m.writes.toNat, r = n.repr
  distinct : (h.filterMap Exchange.granted?).Nodup
  last : ∀ type key e, m.held? type key = some e →
    LastWrote m.catalog h (type, key) e.revision
  separate : ∀ place place' : Place, ∀ e e', m.held? place.1 place.2 = some e →
    m.held? place'.1 place'.2 = some e' → e.revision = e'.revision → place = place'
  used : ∀ r ∈ h.filterMap Exchange.consumed?, r ∈ h.filterMap Exchange.granted?
  unused : ∀ type key e, m.held? type key = some e →
    e.revision ∉ h.filterMap Exchange.consumed?
  once : (h.filterMap Exchange.consumed?).Nodup

theorem tracks_new (c : Catalog) : Tracks [] (new c) where
  numbered := by simp
  distinct := .nil
  last type key e h := by simp at h
  separate place place' e e' h := by simp at h
  used := by simp
  unused type key e h := by simp at h
  once := .nil

theorem toNat_draw {m : Memory} (hroom : m.writes.toNat + 1 < UInt64.size) :
    m.draw.writes.toNat = m.writes.toNat + 1 := by
  rw [UInt64.size] at hroom
  simp only [draw, UInt64.toNat_add, UInt64.reduceToNat]
  omega

/-- A revision that was returned is not the next one that the counter gives. -/
theorem Tracks.fresh {h : List Exchange} {m : Memory} (ht : Tracks h m)
    (hroom : m.writes.toNat + 1 < UInt64.size) :
    revisionAt m.draw.writes ∉ h.filterMap Exchange.granted? := by
  intro hmem
  obtain ⟨n, hn, heq⟩ := ht.numbered _ hmem
  have hnext := toNat_draw hroom
  have hsame : m.draw.writes.toNat = n := Decimal.toString_nat_inj.mp heq
  omega

/-- A call that returns and names no revision, and changes no place that still has a record. -/
theorem Tracks.kept {h : List Exchange} {m m' : Memory} {e : Exchange} (ht : Tracks h m)
    (hgrant : e.granted? = none) (hnamed : e.consumed? = none) (hcatalog : m'.catalog = m.catalog)
    (hwrites : m.writes.toNat ≤ m'.writes.toNat)
    (hentries : ∀ type key entry, m'.held? type key = some entry →
      m.held? type key = some entry ∧ e.changed? m.catalog ≠ some (type, key)) :
    Tracks (h ++ [e]) m' := by
  have hgranted : (h ++ [e]).filterMap Exchange.granted? = h.filterMap Exchange.granted? := by
    simp [hgrant]
  have hconsumed : (h ++ [e]).filterMap Exchange.consumed? = h.filterMap Exchange.consumed? := by
    simp [hnamed]
  constructor
  · intro r hr
    obtain ⟨n, hn, heq⟩ := ht.numbered r (hgranted ▸ hr)
    exact ⟨n, hn.trans hwrites, heq⟩
  · rw [hgranted]
    exact ht.distinct
  · intro type key entry hentry
    obtain ⟨hold, hother⟩ := hentries type key entry hentry
    rw [hcatalog]
    exact (ht.last type key entry hold).append hother
  · intro place place' entry entry' hentry hentry'
    obtain ⟨hold, -⟩ := hentries place.1 place.2 entry hentry
    obtain ⟨hold', -⟩ := hentries place'.1 place'.2 entry' hentry'
    exact ht.separate place place' entry entry' hold hold'
  · rw [hgranted, hconsumed]
    exact ht.used
  · intro type key entry hentry
    obtain ⟨hold, -⟩ := hentries type key entry hentry
    rw [hconsumed]
    exact ht.unused type key entry hold
  · rw [hconsumed]
    exact ht.once

theorem Tracks.idle {h : List Exchange} {m m' : Memory} {e : Exchange} (ht : Tracks h m)
    (hidle : e.Idle m.catalog) (hcatalog : m'.catalog = m.catalog)
    (hsame : ∀ type key, m'.held? type key = m.held? type key)
    (hwrites : m.writes.toNat ≤ m'.writes.toNat) : Tracks (h ++ [e]) m' := by
  obtain ⟨hgrant, hnamed, hplace⟩ := hidle
  refine ht.kept hgrant hnamed hcatalog hwrites ?_
  intro type key entry hentry
  exact ⟨hsame type key ▸ hentry, by simp [hplace]⟩

theorem Tracks.removed {h : List Exchange} {m : Memory} {e : Exchange} (ht : Tracks h m)
    {type key : String} (hplace : e.changed? m.catalog = some (type, key))
    (hgrant : e.granted? = none) (hnamed : e.consumed? = none) :
    Tracks (h ++ [e]) (m.remove type key) := by
  refine ht.kept hgrant hnamed (catalog_remove m type key) le_rfl ?_
  intro type' key' entry hentry
  rw [held?_remove] at hentry
  split at hentry
  · cases hentry
  · next hne =>
    refine ⟨hentry, ?_⟩
    rw [hplace]
    exact fun heq => hne (Prod.mk.inj (Option.some.inj heq).symm)

section Wrote

variable {h : List Exchange} {m : Memory} {e : Exchange} {type key : String}

theorem Tracks.granted_of_held (ht : Tracks h m) {entry : Entry}
    (hentry : m.held? type key = some entry) : entry.revision ∈ h.filterMap Exchange.granted? :=
  (ht.last type key entry hentry).granted

theorem consumed_append (h : List Exchange) (e : Exchange) :
    (h ++ [e]).filterMap Exchange.consumed? =
      h.filterMap Exchange.consumed? ++ e.consumed?.toList := by
  cases hc : e.consumed? <;> simp [hc]

/-- A write names no revision but that of the record it replaces, so none twice. -/
theorem Tracks.once_append (ht : Tracks h m)
    (hnamed : e.NamesOnly m type key) :
    ((h ++ [e]).filterMap Exchange.consumed?).Nodup := by
  rw [consumed_append]
  cases hc : e.consumed? with
  | none => simpa using ht.once
  | some r =>
    obtain ⟨current, hcurrent, rfl⟩ := hnamed r hc
    exact ht.once.append (List.nodup_singleton _) (by simpa using ht.unused _ _ _ hcurrent)

theorem Tracks.used_append (ht : Tracks h m)
    (hnamed : e.NamesOnly m type key)
    {r : Revision} (hr : r ∈ (h ++ [e]).filterMap Exchange.consumed?) :
    r ∈ h.filterMap Exchange.granted? := by
  rw [consumed_append, List.mem_append, Option.mem_toList] at hr
  rcases hr with hold | hnew
  · exact ht.used r hold
  · obtain ⟨current, hcurrent, rfl⟩ := hnamed r hnew
    exact ht.granted_of_held hcurrent

/-- The records of other places keep revisions that no replacement has named. -/
theorem Tracks.unused_append (ht : Tracks h m)
    (hnamed : e.NamesOnly m type key)
    {place : Place} (hne : place ≠ (type, key)) {entry : Entry}
    (hentry : m.held? place.1 place.2 = some entry) :
    entry.revision ∉ (h ++ [e]).filterMap Exchange.consumed? := by
  rw [consumed_append, List.mem_append, Option.mem_toList, not_or]
  refine ⟨ht.unused place.1 place.2 entry hentry, ?_⟩
  intro hnew
  obtain ⟨current, hcurrent, heq⟩ := hnamed _ hnew
  exact hne (ht.separate place (type, key) entry current hentry hcurrent heq.symm)

theorem held?_of_write {content : Message} {r : Revision} {type' key' : String} {entry : Entry}
    (hentry : (m.draw.write type key ⟨content, r⟩).held? type' key' = some entry) :
    (type', key') = (type, key) ∧ entry.revision = r ∨
      (type', key') ≠ (type, key) ∧ m.held? type' key' = some entry := by
  rw [held?_write] at hentry
  split at hentry
  · next hsame =>
    rw [Option.some.injEq] at hentry
    exact .inl ⟨Prod.ext hsame.1 hsame.2, by rw [← hentry]⟩
  · next hne => exact .inr ⟨fun heq => hne (Prod.ext_iff.mp heq), hentry⟩

theorem Tracks.wrote (ht : Tracks h m) (hroom : m.writes.toNat + 1 < UInt64.size)
    {content : Message} (hplace : e.changed? m.catalog = some (type, key))
    (hgrant : e.granted? = some (revisionAt m.draw.writes))
    (hnamed : e.NamesOnly m type key) :
    Tracks (h ++ [e]) (m.draw.write type key ⟨content, revisionAt m.draw.writes⟩) := by
  have hfresh := ht.fresh hroom
  have hgranted : (h ++ [e]).filterMap Exchange.granted? =
      h.filterMap Exchange.granted? ++ [revisionAt m.draw.writes] := by
    simp [hgrant]
  constructor
  · intro r hr
    have hnext : m.draw.writes.toNat = m.writes.toNat + 1 := toNat_draw hroom
    rw [hgranted, List.mem_append, List.mem_singleton] at hr
    rcases hr with hr | hr
    · obtain ⟨n, hn, heq⟩ := ht.numbered r hr
      exact ⟨n, by simp only [writes_write]; omega, heq⟩
    · exact ⟨m.draw.writes.toNat, le_rfl, hr⟩
  · rw [hgranted]
    exact ht.distinct.append (List.nodup_singleton _) (by simpa using hfresh)
  · intro type' key' entry hentry
    rcases held?_of_write hentry with ⟨hsame, hnew⟩ | ⟨hne, hold⟩
    · rw [hsame, hnew]
      exact .of_last hplace hgrant h
    · have hchanged : e.changed? m.catalog ≠ some (type', key') := by
        rw [hplace]
        exact fun heq => hne (Option.some.inj heq).symm
      exact (ht.last type' key' entry hold).append hchanged
  · -- the new revision is fresh, so only records that were there before can share one
    rintro ⟨type₁, key₁⟩ ⟨type₂, key₂⟩ entry entry' hentry hentry' heq
    rcases held?_of_write hentry with ⟨hsame, hnew⟩ | ⟨-, hold⟩
    · rcases held?_of_write hentry' with ⟨hsame', -⟩ | ⟨-, hold'⟩
      · rw [hsame, hsame']
      · have hmem := ht.granted_of_held hold'
        rw [← heq, hnew] at hmem
        exact absurd hmem hfresh
    · rcases held?_of_write hentry' with ⟨-, hnew'⟩ | ⟨-, hold'⟩
      · have hmem := ht.granted_of_held hold
        rw [heq, hnew'] at hmem
        exact absurd hmem hfresh
      · exact ht.separate (type₁, key₁) (type₂, key₂) entry entry' hold hold' heq
  · intro r hr
    rw [hgranted]
    exact List.mem_append_left _ (ht.used_append hnamed hr)
  · intro type' key' entry hentry
    rcases held?_of_write hentry with ⟨-, hnew⟩ | ⟨hne, hold⟩
    · rw [hnew]
      exact fun hmem => hfresh (ht.used_append hnamed hmem)
    · exact ht.unused_append hnamed hne hold
  · exact ht.once_append hnamed

end Wrote

/-- What a history tells of the records stays true over one more call, as long as the counter
does not run over. -/
theorem Tracks.perform {h : List Exchange} {m : Memory} (ht : Tracks h m) (call : Call)
    (hroom : call.isWrite = true → m.writes.toNat + 1 < UInt64.size) :
    Tracks (h ++ [⟨call, (call.perform m).1⟩]) (call.perform m).2 := by
  have heffect := effect_perform m call
  generalize (call.perform m).2 = m' at heffect ⊢
  cases heffect with
  | kept hidle => exact ht.idle hidle rfl (fun _ _ => rfl) le_rfl
  | drew hwrite hidle =>
    have hnext := toNat_draw (hroom hwrite)
    exact ht.idle hidle rfl (fun _ _ => rfl) (by omega)
  | wrote s key content hwrite _ hplace hgrant hnamed =>
    exact ht.wrote (hroom hwrite) hplace hgrant hnamed
  | removed type key hplace hgrant hnamed => exact ht.removed hplace hgrant hnamed

/-- Only writes move the counter, and each by one. -/
theorem toNat_writes_perform {m : Memory} (call : Call)
    (hroom : call.isWrite = true → m.writes.toNat + 1 < UInt64.size) :
    (call.perform m).2.writes.toNat ≤ m.writes.toNat + if call.isWrite then 1 else 0 := by
  have heffect := effect_perform m call
  generalize (call.perform m).2 = m' at heffect ⊢
  cases heffect with
  | kept _ => exact Nat.le_add_right _ _
  | drew hwrite _ =>
    have hwrite' : call.isWrite = true := hwrite
    rw [toNat_draw (hroom hwrite), if_pos hwrite']
  | wrote s key content hwrite _ _ _ _ =>
    have hwrite' : call.isWrite = true := hwrite
    rw [writes_write, toNat_draw (hroom hwrite), if_pos hwrite']
  | removed type key _ _ _ => exact Nat.le_add_right _ _

/-- The history of a new store tells its records, and its counter is at most the number of
writes. -/
theorem tracks_history (c : Catalog) (calls : List Call)
    (hbound : calls.countP Call.isWrite < UInt64.size) :
    Tracks (history (new c) calls) (afterCalls (new c) calls) ∧
      (afterCalls (new c) calls).writes.toNat ≤ calls.countP Call.isWrite := by
  induction calls using List.reverseRecOn with
  | nil => exact ⟨tracks_new c, Nat.zero_le _⟩
  | append_singleton calls call ih =>
    rw [List.countP_append, List.countP_singleton] at hbound
    obtain ⟨ht, hcount⟩ := ih (by omega)
    have hroom : call.isWrite = true →
        (afterCalls (new c) calls).writes.toNat + 1 < UInt64.size := by
      intro hwrite
      rw [if_pos hwrite] at hbound
      omega
    have hmoved := toNat_writes_perform call hroom
    rw [history_append, afterCalls_append, List.countP_append, List.countP_singleton]
    exact ⟨ht.perform call hroom, hmoved.trans (Nat.add_le_add_right hcount _)⟩

/-- No update is lost, whatever the order of the calls of any number of clients: no revision is
returned twice; a replacement that succeeds names the revision of the last write at its place,
with no deletion since; and no revision lets two replacements through. -/
theorem no_lost_update (c : Catalog) (calls : List Call)
    (hbound : calls.countP Call.isWrite < UInt64.size) :
    let h := history (new c) calls
    (h.filterMap Exchange.granted?).Nodup ∧
      (∀ before after content r r',
        h = before ++ ⟨.put content r, .written (.ok r')⟩ :: after →
          ∃ place, c.place? content = some place ∧ LastWrote c before place r) ∧
      (h.filterMap Exchange.consumed?).Nodup := by
  intro h
  obtain ⟨ht, -⟩ := tracks_history c calls hbound
  refine ⟨ht.distinct, ?_, ht.once⟩
  intro before after content r r' hsplit
  obtain ⟨first, rest, rfl, rfl, hanswer⟩ := history_eq_append_cons hsplit
  have hfirst : first.countP Call.isWrite < UInt64.size := by
    rw [List.countP_append] at hbound
    omega
  obtain ⟨htracks, -⟩ := tracks_history c first hfirst
  have hcatalog : (afterCalls (new c) first).catalog = c := catalog_afterCalls (new c) first
  have heffect := effect_perform (afterCalls (new c) first) (.put content r)
  rw [← hanswer] at heffect
  generalize ((Call.put content r).perform (afterCalls (new c) first)).2 = m' at heffect
  cases heffect with
  | kept hidle => cases hidle.1
  | drew _ hidle => cases hidle.1
  | wrote s key _ _ _ hplace _ hnamed =>
    obtain ⟨current, hcurrent, rfl⟩ := hnamed r rfl
    have hlast := htracks.last s.type key current hcurrent
    rw [hcatalog] at hplace hlast
    exact ⟨(s.type, key), hplace, hlast⟩
  | removed type key _ hgrant _ => cases hgrant

/-- One type, whose records are all kept under one key. -/
def noteCatalog : Catalog :=
  [⟨"note", "notes", "test.Note", false, fun _ => .ok "a", fun _ => .ok []⟩]

def noteMessage (n : Nat) : Message := ⟨"test.Note", .int n⟩

/-- A record is deleted and written again: the revision of the first write lets nothing through
any more, and that of the second lets one replacement through. -/
def noteCalls : List Call :=
  [.post (noteMessage 1), .delete "note" "a", .post (noteMessage 1), .put (noteMessage 2) "1",
    .put (noteMessage 2) "2", .put (noteMessage 3) "2"]

theorem no_lost_update_over_repost :
    noteCalls.countP Call.isWrite < UInt64.size ∧
      (history (new noteCatalog) noteCalls).filterMap Exchange.consumed? = ["2"] ∧
      ((history (new noteCatalog) noteCalls).filterMap Exchange.granted?).Nodup :=
  ⟨by decide, rfl, (no_lost_update noteCatalog noteCalls (by decide)).1⟩

end Memory

end MeshControl.Config
